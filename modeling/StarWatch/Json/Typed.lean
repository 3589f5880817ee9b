import StarWatch.Json.Writer
import StarWatch.Text.Quoted
import StarWatch.Text.Utf8

/-!
# JSON values of a known type

A reading takes a value to what it stands for, or says what is wrong with it and
where: the place is counted in bytes of the compact text. A complaint that
comes without a place gets the one where the record or list around it goes on.
Records are read in the order of their text, so that the first wrong field is
the one complained of; fields that are missing come after that.
-/

namespace StarWatch.Json

/-- A value with the bytes in front of it. -/
structure Spot where
  value : Json
  start : Nat

/-- The bytes up to the end of a value. -/
def Spot.finish (s : Spot) : Nat := s.start + Utf8.size (write s.value)

structure Complaint where
  reason : String
  place : Option Nat
deriving DecidableEq

namespace Complaint

def message (c : Complaint) : String :=
  c.reason ++ " at line 1 column " ++ Numeral.decimal (c.place.getD 0)

/-- Puts a complaint without a place to where the text goes on behind a value; the bracket that
closes the list counts to its last value. -/
def settle (c : Complaint) (finish : Nat) (isLast : Bool) : Complaint :=
  { c with place := some (c.place.getD (if isLast then finish + 1 else finish)) }

end Complaint

abbrev Reading (α : Type) := Spot → Except Complaint α

/-- What a value is, in the words of a complaint; a number beyond 64 bits is not spelled out. -/
def describe : Json → String
  | null => "null"
  | bool true => "boolean `true`"
  | bool false => "boolean `false`"
  | integer n =>
    if Int64.minValue.toInt ≤ n ∧ n < Int.ofNat UInt64.size then
      "integer `" ++ String.ofList (writeInt n) ++ "`"
    else "number"
  | literal _ => "number"
  | text s => "string " ++ String.ofList (Text.quoted '"' s.toList)
  | array _ => "sequence"
  | object _ => "map"

namespace Spot

/-- The complaint about a value of another type. A list or record is refused where it starts,
any other value behind its end. -/
def mistyped (s : Spot) (expected : String) : Complaint where
  reason := "invalid type: " ++ describe s.value ++ ", expected " ++ expected
  place := match s.value with
    | array _ => some s.start
    | object _ => some s.start
    | _ => some s.finish

def text (s : Spot) (expected : String) : Except Complaint String :=
  match s.value with
  | .text t => .ok t
  | _ => .error (s.mistyped expected)

end Spot

namespace Reading

def text : Reading String := fun s => s.text "a string"

def bool : Reading Bool := fun s =>
  match s.value with
  | .bool b => .ok b
  | _ => .error (s.mistyped "a boolean")

/-- Null stands for no value. -/
def optional {α : Type} (read : Reading α) : Reading (Option α) := fun s =>
  match s.value with
  | .null => .ok none
  | _ => (read s).map some

def items {α : Type} (read : Reading α) (start : Nat) : List Json → Except Complaint (List α)
  | [] => .ok []
  | value :: rest => do
    let spot : Spot := { value, start }
    let a ← (read spot).mapError fun c => c.settle spot.finish rest.isEmpty
    return a :: (← items read (spot.finish + 1) rest)

def list {α : Type} (read : Reading α) : Reading (List α) := fun s =>
  match s.value with
  | .array values => items read (s.start + 1) values
  | _ => .error (s.mistyped "a sequence")

end Reading

structure Field where
  name : String
  required : Bool
  check : Reading Unit

namespace Field

/-- A field that has to be there. -/
def needed {α : Type} (name : String) (read : Reading α) : Field where
  name := name
  required := true
  check := fun s => (read s).map fun _ => ()

/-- A field that may be absent, but not null. -/
def defaulted {α : Type} (name : String) (read : Reading α) : Field :=
  { needed name read with required := false }

/-- A field that may be absent or null. -/
def nullable {α : Type} (name : String) (read : Reading α) : Field :=
  defaulted name (Reading.optional read)

def checkNamed (fields : List Field) (name : String) : Reading Unit := fun s =>
  match fields.find? fun f => f.name == name with
  | some f => f.check s
  | none => .ok ()

def checkAll (fields : List Field) (start : Nat) : List (String × Json) → Except Complaint Unit
  | [] => .ok ()
  | (name, value) :: rest => do
    let spot : Spot := { value, start := start + Utf8.size (writeText name) + 1 }
    (checkNamed fields name spot).mapError fun c => c.settle spot.finish rest.isEmpty
    checkAll fields (spot.finish + 1) rest

/-- Checks the values of a list against fields in their order; `count` fields are done. -/
def checkList (title : String) (finish : Nat) : Nat → List Field → Nat → List Json →
    Except Complaint Unit
  | _, [], _, [] => .ok ()
  | _, [], start, _ :: _ => .error { reason := "trailing characters", place := some (start + 1) }
  | count, rest, _, [] =>
    .error {
      reason := "invalid length " ++ Numeral.decimal count ++ ", expected " ++ title ++ " with " ++
        Numeral.decimal (count + rest.length) ++ " elements"
      place := some finish }
  | count, f :: fields, start, value :: rest => do
    let spot : Spot := { value, start }
    (f.check spot).mapError fun c => c.settle spot.finish rest.isEmpty
    checkList title finish (count + 1) fields (spot.finish + 1) rest

/-- The first required field that an object does not have. -/
def missing? (fields : List Field) (record : Json) : Option Field :=
  fields.find? fun f => f.required && (record.field? f.name).isNone

end Field

namespace Spot

/-- The values of a record's fields, null where one is absent; an object with these fields. -/
def fields (s : Spot) (title : String) (fields : List Field) : Except Complaint (List Json) :=
  match s.value with
  | .object values => do
    Field.checkAll fields (s.start + 1) values
    match Field.missing? fields s.value with
    | some f => throw { reason := "missing field `" ++ f.name ++ "`", place := some s.finish }
    | none => return fields.map fun f => (s.value.field? f.name).getD .null
  | _ => .error (s.mistyped title)

/-- The values of a record that may also be a list of them all. -/
def record (s : Spot) (title : String) (fields : List Field) : Except Complaint (List Json) :=
  match s.value with
  | .array values => do
    Field.checkList title s.finish 0 fields (s.start + 1) values
    return values
  | _ => s.fields title fields

end Spot

end StarWatch.Json
