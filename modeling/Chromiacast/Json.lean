import Mathlib

/-! JSON values as the control channel reads them. The text parser is not modelled:
where a message is parsed, the parser is a parameter. -/
namespace Chromiacast

inductive JsonNumber where
  | unsigned (n : UInt64)
  | negative (n : Int64)
  | float (bits : UInt64)
  deriving DecidableEq, Repr

inductive Json where
  | null
  | bool (b : Bool)
  | number (n : JsonNumber)
  | string (s : String)
  | array (items : List Json)
  | object (fields : List (String × Json))
  deriving Repr

namespace Json

def get : Json → String → Option Json
  | object fields,field => fields.lookup field
  | _,_ => none

def asU64 : Json → Option UInt64
  | number (.unsigned n) => some n
  | _ => none

def asStr : Json → Option String
  | string s => some s
  | _ => none

def asBool : Json → Option Bool
  | bool b => some b
  | _ => none

/- A number stands for its value as a float. -/
def asF64 : Json → Option JsonNumber
  | number n => some n
  | _ => none

def asArray : Json → Option (List Json)
  | array items => some items
  | _ => none

def asObject : Json → Option Json
  | object fields => some (object fields)
  | _ => none

def ofU32 (n : UInt32) : Json := number (.unsigned n.toUInt64)

def setField (field : String) (value : Json) : List (String × Json) → List (String × Json)
  | [] => [(field,value)]
  | (key,old)::rest => if key = field then (key,value)::rest else (key,old)::setField field value rest

end Json

def jsonU32 (value : Json) (field : String) : Option UInt32 := do
  let found ← value.get field
  let n ← found.asU64
  if n.toNat < 2^32 then some n.toUInt32 else none

def jsonMessageType (value : Json) : Option String :=
  ((value.get "type").or (value.get "responseType")).bind Json.asStr

end Chromiacast
