/-!
# JSON values

A number that is a plain integer is held as that integer; any other number
literal is held as it is written, for no document here gives it a meaning.
The fields of an object keep their order.
-/

namespace StarWatch

inductive Json where
  | null
  | bool (b : Bool)
  | integer (n : Int)
  | literal (numeral : String)
  | text (s : String)
  | array (items : List Json)
  | object (fields : List (String × Json))
deriving Inhabited

namespace Json

def ofNat (n : Nat) : Json := .integer n

/-- The value of a field; the last one counts where a name comes twice. -/
def field? (name : String) : Json → Option Json
  | object fields => (fields.reverse.find? fun f => f.1 == name).map Prod.snd
  | _ => none

def text? : Json → Option String
  | text s => some s
  | _ => none

def bool? : Json → Option Bool
  | bool b => some b
  | _ => none

def array? : Json → Option (List Json)
  | array items => some items
  | _ => none

def nat? (bound : Nat) : Json → Option Nat
  | integer (.ofNat n) => if n < bound then some n else none
  | _ => none

/-- The values of all the named fields, in the order of the names. -/
def fields? (names : List String) : Json → Option (List Json)
  | object fields => names.mapM fun name => field? name (object fields)
  | _ => none

/-- The values of a record with the given field names. A record is an object that has all of
them, or an array that lists exactly their values. -/
def record? (names : List String) : Json → Option (List Json)
  | array items => if items.length = names.length then some items else none
  | j => j.fields? names

end Json

end StarWatch
