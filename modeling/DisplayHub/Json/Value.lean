import DisplayHub.Json.Quoted

/-!
# JSON values

A value to be written, and its one written form.

A value is what a program has to say, so unlike the tree of a text it has no
broken places and only whole numbers. It is written without any space, with
its members in the order in which they are given.

## Main definitions

* `Value`: Null, truth values, whole numbers, texts, lists and objects.
* `Value.render`: The written form.
-/

namespace DisplayHub

namespace Json

/-- A value to be written. -/
inductive Value where
  | null
  | bool (b : Bool)
  | int (n : Int)
  | text (s : String)
  | list (items : List Value)
  | object (members : List (String × Value))

mutual

/-- The written form of a value. -/
def Value.render : Value → List Char
  | .null => ['n', 'u', 'l', 'l']
  | .bool true => ['t', 'r', 'u', 'e']
  | .bool false => ['f', 'a', 'l', 's', 'e']
  | .int n => Text.decimalInt n
  | .text s => quote s
  | .list [] => ['[', ']']
  | .list (v :: rest) => '[' :: (v.render ++ Value.renderItems rest)
  | .object [] => ['{', '}']
  | .object ((k, v) :: rest) => '{' :: (quote k ++ ':' :: (v.render ++ Value.renderMembers rest))

/-- The items after the first, each after a comma, and the closing bracket. -/
def Value.renderItems : List Value → List Char
  | [] => [']']
  | v :: rest => ',' :: (v.render ++ Value.renderItems rest)

/-- The members after the first, each after a comma, and the closing brace. -/
def Value.renderMembers : List (String × Value) → List Char
  | [] => ['}']
  | (k, v) :: rest => ',' :: (quote k ++ ':' :: (v.render ++ Value.renderMembers rest))

end

/-- The written form as a string. -/
def Value.toText (v : Value) : String :=
  String.ofList v.render

end Json

end DisplayHub
