import BatchInbox.Json.Scalar

/-!
# JSON values without a type

Where nothing is known about a value before it is read, all of it has to make sense: its strings and
numbers stand for something, and it is not nested too deeply.  Of repeated fields the last one
counts.

Parts of a text that are skipped need not make sense in this way.
-/

set_option autoImplicit false
namespace BatchInbox.Json

/-- How many arrays and objects may be inside each other. -/
def maxDepth : Nat := 127

/-- Strings and numbers stand for something. -/
def isScalar : Json → Bool
  | number token =>
    match Number.ofToken token with
    | .other isFinite => isFinite
    | _ => true
  | string token => (unescape? token).isSome
  | _ => true

mutual
/-- A value makes sense, with at most `depth` arrays and objects inside each other. -/
def isSound (depth : Nat) : Json → Bool
  | array items => 0 < depth && areItemsSound (depth - 1) items
  | object fields => 0 < depth && areFieldsSound (depth - 1) fields
  | value => isScalar value

/-- All items make sense. -/
def areItemsSound (depth : Nat) : List Json → Bool
  | [] => true
  | item :: items => isSound depth item && areItemsSound depth items

/-- All fields make sense. -/
def areFieldsSound (depth : Nat) : List (List Char × Json) → Bool
  | [] => true
  | (name, value) :: fields =>
    (unescape? name).isSome && isSound depth value && areFieldsSound depth fields
end

/-- A field with the same name comes later. -/
def isRepeated (name : List Char) (fields : List (List Char × Json)) : Bool :=
  fields.any fun field => unescape? field.1 = unescape? name

mutual
/-- The value with only the last of repeated fields. -/
def settle : Json → Json
  | array items => array (settleItems items)
  | object fields => object (settleFields fields)
  | value => value

/-- The items with only the last of repeated fields. -/
def settleItems : List Json → List Json
  | [] => []
  | item :: items => settle item :: settleItems items

/-- The last of repeated fields. -/
def settleFields : List (List Char × Json) → List (List Char × Json)
  | [] => []
  | (name, value) :: fields =>
    if isRepeated name fields then settleFields fields
    else (name, settle value) :: settleFields fields
end

end BatchInbox.Json
