import Blocklist.Decimal.Shortest
import Blocklist.Json.Document
import Blocklist.Text.Quoted

/-!
Decoding documents into typed values. Members are taken in the order of the text, so the
first problem of the text is the one that is reported.
-/

namespace Blocklist.Json

/-- What stands where something else was wanted. A decimal is given by its text. -/
inductive Found where
  | null
  | boolean (value : Bool)
  | integer (value : Int)
  | decimal (text : String)
  | string (value : String)
  | sequence
  | map
  deriving DecidableEq, Repr

/-- The wording of what was found. -/
def Found.message : Found → String
  | null => "null"
  | boolean value => s!"boolean `{value}`"
  | integer value => s!"integer `{value}`"
  | decimal text => s!"floating point `{text}`"
  | string value => "string " ++ String.ofList (Text.quoted value.toList)
  | sequence => "sequence"
  | map => "map"

/-- Why well-formed JSON is not the value that was wanted. -/
inductive DataFault where
  | missingField (name : String)
  | duplicateField (name : String)
  | unknownVariant (name : String) (known : List String)
  | wrongType (found : Found) (wanted : String)
  | wrongValue (found : Found) (wanted : String)
  | wrongLength (length : Nat) (wanted : String)
  deriving DecidableEq, Repr

/-- The choice among known names. -/
def choiceMessage (names : List String) : String :=
  match names with
  | [] => "there are no variants"
  | [only] => s!"expected `{only}`"
  | [one, two] => s!"expected `{one}` or `{two}`"
  | names => "expected one of " ++ ", ".intercalate (names.map fun name => s!"`{name}`")

/-- The wording of a fault in the data. -/
def DataFault.message : DataFault → String
  | missingField name => s!"missing field `{name}`"
  | duplicateField name => s!"duplicate field `{name}`"
  | unknownVariant name known => s!"unknown variant `{name}`, " ++ choiceMessage known
  | wrongType found wanted => s!"invalid type: {found.message}, expected {wanted}"
  | wrongValue found wanted => s!"invalid value: {found.message}, expected {wanted}"
  | wrongLength length wanted => s!"invalid length {length}, expected {wanted}"

/-- Why a text gives no value. -/
inductive ReadFault where
  | text (fault : Fault)
  | data (fault : DataFault)
  deriving DecidableEq, Repr

/-- The wording of a fault. -/
def ReadFault.message : ReadFault → String
  | text .malformed => "malformed JSON"
  | text .truncated => "unexpected end of JSON"
  | data fault => fault.message

/-- Where a document stands: in a text that is being read, inside a part of it that was read
ahead as a whole, or in a value that was never text.
-/
inductive Stage where
  | streamed
  | buffered
  | held
  deriving DecidableEq, Repr

/-- The result of decoding. -/
abbrev Decoded (α : Type) := Except ReadFault α

/-- Fails with a fault of the text. -/
def throwText {α : Type} (fault : Fault) : Decoded α :=
  .error (.text fault)

/-- Fails with a fault of the data. -/
def throwData {α : Type} (fault : DataFault) : Decoded α :=
  .error (.data fault)

/-- Fails if there is a fault of the text. -/
def checkText : Option Fault → Decoded Unit
  | some fault => throwText fault
  | none => .ok ()

/-- A number without its notation: an integer that fits 64 bits, or the text of a decimal.
A decimal may be out of range.
-/
def Numeral.found? : Numeral → Option Found
  | .integer false magnitude =>
    if magnitude < UInt64.size then some (.integer magnitude) else decimalText false magnitude 0 0
  | .integer true magnitude =>
    if 0 < magnitude && magnitude ≤ UInt64.size / 2 then some (.integer (-magnitude))
    else decimalText true magnitude 0 0
  | .decimal negative digits places exponent => decimalText negative digits places exponent
where
  decimalText (negative : Bool) (digits places : Nat) (exponent : Int) : Option Found :=
    (Decimal.Binary64.ofDecimal? digits places exponent).map fun number =>
      let text := (Decimal.shortest number).text
      .decimal (String.ofList (if negative then '-' :: text else text))

namespace Document

/-- What a document is, for one who wanted something else. -/
def found : Document → Decoded Found
  | null => .ok .null
  | bool value => .ok (.boolean value)
  | number value =>
    match value.found? with
    | some found => .ok found
    | none => throwText .malformed
  | string (.ok value) => .ok (.string value)
  | string (.error fault) => throwText fault
  | array _ _ => .ok .sequence
  | object _ _ => .ok .map
  | broken _ onRead _ => throwText onRead

/-- Refuses a document where another kind of value was wanted. -/
def refuse {α : Type} (wanted : String) (document : Document) : Decoded α := do
  throwData (.wrongType (← document.found) wanted)

/-- Decodes a string; `wanted` says what it is for. -/
def asString (wanted : String) : Document → Decoded String
  | string (.ok value) => .ok value
  | string (.error fault) => throwText fault
  | document => document.refuse wanted

/-- Decodes a truth value. -/
def asBool : Document → Decoded Bool
  | bool value => .ok value
  | document => document.refuse "a boolean"

/-- Decodes a natural number below a bound, which has a name. -/
def asNat (bound : Nat) (wanted : String) (document : Document) : Decoded Nat := do
  match ← document.found with
  | .integer value =>
    if 0 ≤ value && value < bound then return value.toNat
    else throwData (.wrongValue (.integer value) wanted)
  | found => throwData (.wrongType found wanted)

/-- Decodes a number of 32 bits. -/
def asUInt32 (document : Document) : Decoded UInt32 :=
  UInt32.ofNat <$> document.asNat UInt32.size "u32"

/-- Decodes a count or an offset, a number of 64 bits. -/
def asSize (document : Document) : Decoded Nat :=
  document.asNat UInt64.size "usize"

/-- Decodes a value that null leaves unset. What begins like null is read as null. -/
def asOption {α : Type} (decode : Document → Decoded α) : Document → Decoded (Option α)
  | null => .ok none
  | broken (some 'n') onRead _ => throwText onRead
  | document => some <$> decode document

/-- Decodes the items of an array. -/
def asList {α : Type} (decode : Document → Decoded α) : Document → Decoded (List α)
  | array items stop => do
    let values ← items.mapM decode
    checkText stop
    return values
  | document => document.refuse "a sequence"

/-- Looks up one of a list of named values. -/
def namedValue {α : Type} (nameOf : α → String) (values : List α) (name : String) : Decoded α :=
  match values.find? fun value => nameOf value == name with
  | some value => .ok value
  | none => throwData (.unknownVariant name (values.map nameOf))

/-- Checks the payload of a named value that is written as an object with one member. -/
def checkEmptyPayload (stage : Stage) : Document → Decoded Unit
  | null => .ok ()
  | object [] none => if stage = .buffered then .ok () else refuse "unit" (object [] none)
  | document => document.refuse "unit"

/-- Decodes one of a list of named values: its name, or an object with the name as its only
key and null as the value. In a text, what begins like neither is read no further.
-/
def asNamed {α : Type} (stage : Stage) (nameOf : α → String) (values : List α) :
    Document → Decoded α
  | string (.ok name) => namedValue nameOf values name
  | string (.error fault) => throwText fault
  | broken none onRead _ => throwText onRead
  | broken (some start) onRead _ => throwText (if start = '"' then onRead else .malformed)
  | object members stop =>
    match stage, members with
    | .streamed, [] => throwText (stop.getD .malformed)
    | .streamed, (key, payload) :: rest => do
      let name ← liftKey key
      let value ← namedValue nameOf values name
      checkEmptyPayload stage payload
      if !rest.isEmpty then throwText .malformed
      checkText stop
      return value
    | _, [(key, payload)] => do
      let name ← liftKey key
      let value ← namedValue nameOf values name
      checkEmptyPayload stage payload
      return value
    | _, _ => throwData (.wrongValue .map "map with a single key")
  | document =>
    if stage = .streamed then throwText .malformed else document.refuse "string or map"
where
  liftKey : Except Fault String → Decoded String
    | .ok key => .ok key
    | .error fault => throwText fault

/-- The fault met when a value is read ahead, with `levels` of nesting left. Only numbers in
range, well-formed strings and values that nest no deeper can be kept.
-/
def bufferFault? : Nat → Document → Option Fault
  | _, number value => if value.found?.isSome then none else some .malformed
  | _, string (.error fault) => some fault
  | _, broken _ onRead _ => some onRead
  | levels, array items stop =>
    match levels with
    | 0 => some .malformed
    | levels + 1 => items.findSome? (bufferFault? levels) <|> stop
  | levels, object members stop =>
    match levels with
    | 0 => some .malformed
    | levels + 1 =>
      members.findSome? (fun (key, value) =>
        match key with
        | .error fault => some fault
        | .ok _ => bufferFault? levels value)
      <|> stop
  | _, _ => none

end Document

/-- How a record is written: its name in messages, its fields in order, those it cannot do
without, and how the value of a field is taken in.
-/
structure Schema (α : Type) where
  title : String
  fields : List String
  required : List String
  assign : Stage → String → Document → α → Decoded α

namespace Schema

variable {α : Type}

/-- The text of a number of elements. -/
def elements (n : Nat) : String :=
  if n = 1 then "1 element" else s!"{n} elements"

/-- Takes in members one after the other; `seen` are the fields taken in so far. A field may
not come twice, and members with other names are passed over.
-/
def readMembers (schema : Schema α) (stage : Stage) :
    List String → α → List (Except Fault String × Document) → Decoded (List String × α)
  | seen, record, [] => .ok (seen, record)
  | _, _, (.error fault, _) :: _ => throwText fault
  | seen, record, (.ok key, value) :: rest =>
    if !schema.fields.contains key then do
      checkText value.skipFault?
      schema.readMembers stage seen record rest
    else if seen.contains key then throwData (.duplicateField key)
    else do
      let record ← schema.assign stage key value record
      schema.readMembers stage (key :: seen) record rest

/-- Takes in items as the given fields in order. Fields may be missing at the end unless
they are required. `count` fields are taken in already.
-/
def readItems (schema : Schema α) (stage : Stage) (stop : Option Fault) :
    Nat → List String → α → List Document → Decoded α
  | count, [], record, rest => do
    if rest.isEmpty then checkText stop
    else match stage with
      | .streamed => throwText .malformed
      | .buffered =>
        throwData (.wrongLength (count + rest.length) (elements count ++ " in sequence"))
      | .held => throwData (.wrongLength (count + rest.length) "fewer elements in array")
    return record
  | count, field :: fields, record, [] => do
    checkText stop
    if schema.required.contains field then
      throwData (.wrongLength count
        (schema.title ++ " with " ++ elements schema.fields.length))
    else schema.readItems stage stop (count + 1) fields record []
  | count, field :: fields, record, item :: rest => do
    let record ← schema.assign stage field item record
    schema.readItems stage stop (count + 1) fields record rest

/-- Decodes a record from an object, or from an array of its fields in order. Fields that
are not written keep their value in `start`.
-/
def read (schema : Schema α) (stage : Stage) (start : α) : Document → Decoded α
  | .object members stop => do
    let (seen, record) ← schema.readMembers stage [] start members
    checkText stop
    match schema.required.find? (!seen.contains ·) with
    | some field => throwData (.missingField field)
    | none => return record
  | .array items stop => schema.readItems stage stop 0 schema.fields start items
  | document => document.refuse schema.title

end Schema

/-- Reads a whole text: nothing but white space may follow the value. -/
def readText {α : Type} (decode : Document → Decoded α) (text : String) : Decoded α := do
  let (document, isFollowed) := scanText text.toList
  let value ← decode document
  if isFollowed then throwText .malformed
  return value

end Blocklist.Json
