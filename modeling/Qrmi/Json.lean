import Qrmi.RustText

/-!
# JSON documents

The document tree shared by the two JSON libraries of the repository, with the
accessors that the code calls.  Parsing and serialising belong to those
libraries and stay parameters.
-/

/-- A JSON number.  Integers without fraction and exponent are kept apart,
because only they have an integer view. -/
inductive JsonNumber
  | unsigned (value : Nat)
  | negative (magnitude : Nat)
  | real (literal : Text)
  deriving DecidableEq

/-- A JSON document. -/
inductive Json
  | null
  | bool (value : Bool)
  | number (value : JsonNumber)
  | string (value : Text)
  | array (items : List Json)
  | object (entries : List (Text × Json))

namespace Json

/-- `value[key]`: null when the key is missing or the value is no object. -/
def get (document : Json) (key : String) : Json :=
  match document with
  | object entries => (entries.lookup key.toList).getD null
  | _ => null

/-- `value.get(key)`: absent when the key is missing or the value is no object. -/
def member? (document : Json) (key : String) : Option Json :=
  match document with
  | object entries => entries.lookup key.toList
  | _ => none

def isObject : Json → Bool
  | object _ => true
  | _ => false

def isNumber : Json → Bool
  | number _ => true
  | _ => false

def asBool : Json → Option Bool
  | bool value => some value
  | _ => none

def asString : Json → Option Text
  | string value => some value
  | _ => none

def asArray : Json → Option (List Json)
  | array items => some items
  | _ => none

def asU64 : Json → Option Nat
  | number (.unsigned value) => if value < 2 ^ 64 then some value else none
  | _ => none

def asI64 : Json → Option Int
  | number (.unsigned value) => if value < 2 ^ 63 then some value else none
  | number (.negative magnitude) => if magnitude ≤ 2 ^ 63 then some (-magnitude) else none
  | _ => none

def asU32 (document : Json) : Option UInt32 :=
  match document.asU64 with
  | some value => if value < 2 ^ 32 then some (UInt32.ofNat value) else none
  | none => none

/-- An object literal with unsigned integer and string members. -/
def unsignedMember (key : String) (value : Nat) : Text × Json :=
  (key.toList, number (.unsigned value))

def stringMember (key value : String) : Text × Json :=
  (key.toList, string value.toList)

/-- A string literal without characters that need an escape other than quotation
marks and backslashes. -/
def renderString (text : Text) : Text :=
  ['"'] ++ text.flatMap (fun char =>
    if char = '"' ∨ char = '\\' then ['\\', char] else [char]) ++ ['"']

mutual

/-- The compact form of a document. -/
def render : Json → Text
  | null => "null".toList
  | bool true => "true".toList
  | bool false => "false".toList
  | number (.unsigned value) => Text.showUnsigned value
  | number (.negative magnitude) => '-' :: Text.showUnsigned magnitude
  | number (.real literal) => literal
  | string value => renderString value
  | array items => ['['] ++ renderItems items ++ [']']
  | object entries => ['\x7b'] ++ renderEntries entries ++ ['\x7d']

def renderItems : List Json → Text
  | [] => []
  | [item] => render item
  | item :: items => render item ++ [','] ++ renderItems items

def renderEntries : List (Text × Json) → Text
  | [] => []
  | [(key, value)] => renderString key ++ [':'] ++ render value
  | (key, value) :: entries =>
      renderString key ++ [':'] ++ render value ++ [','] ++
        renderEntries entries

end

end Json

/-- The parser and serialiser of one JSON library.  A failing parser reports
its own message. -/
structure JsonLibrary where
  parse : Text → Except String Json
  dump : Json → Text

/-- A library that renders compactly and recognises the documents of a table. -/
def JsonLibrary.ofTable (table : List Json) : JsonLibrary where
  parse text :=
    match table.find? fun document => document.render = text with
    | some document => .ok document
    | none => .error "expected value"
  dump := Json.render
