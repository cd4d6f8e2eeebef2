import TaggedConfig.Decimal.Double

/-! JSON values.
An object keeps its members sorted by name, one for each name.
-/

namespace TaggedConfig

/-- A number: an integer of 64 bits, or a floating-point number. -/
inductive Json.Number where
  | integer (value : Int)
  | double (value : Double)
  deriving DecidableEq, Repr

/-- A JSON value. -/
inductive Json where
  | null
  | bool (value : Bool)
  | number (value : Json.Number)
  | string (value : String)
  | array (items : List Json)
  | object (members : List (String × Json))
  deriving Repr

namespace Json

/-- The least integer that is kept as one. -/
def leastInteger : Int := -9223372036854775808

/-- The greatest integer that is kept as one. -/
def greatestInteger : Int := 18446744073709551615

/-- A member put into its place, in the place of an earlier one of its name. -/
def insertMember (name : String) (value : Json) : List (String × Json) → List (String × Json)
  | [] => [(name, value)]
  | (other, old) :: rest =>
      if name < other then (name, value) :: (other, old) :: rest
      else if name = other then (name, value) :: rest
      else (other, old) :: insertMember name value rest

/-- The object of members in document order; of one name the last counts. -/
def ofMembers (members : List (String × Json)) : Json :=
  .object (members.foldl (fun sorted (name, value) => insertMember name value sorted) [])

/-- The value of a member, if the value is an object that has it. -/
def member? (name : String) : Json → Option Json
  | .object members => members.lookup name
  | _ => none

def members? : Json → Option (List (String × Json))
  | .object members => some members
  | _ => none

/-- The nearest floating-point number. -/
def Number.toDouble : Number → Double
  | .integer value => .ofInt value
  | .double value => value

end Json

end TaggedConfig
