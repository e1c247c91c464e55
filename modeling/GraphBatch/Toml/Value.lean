/-!
# TOML values

The values a TOML document can hold. Of dates and times it is only kept that they are there.
-/

namespace GraphBatch.Toml

inductive Value where
  | string (value : String)
  | integer (value : Int)
  | float (value : Float)
  | boolean (value : Bool)
  | datetime
  | array (items : List Value)
  | table (fields : List (String × Value))

end GraphBatch.Toml
