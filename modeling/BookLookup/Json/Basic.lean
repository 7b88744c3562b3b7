import BookLookup.Text.Hex

/-!
# JSON values

A value keeps the members of an object in the order in which they are written,
repeated names included, and a number as the literal that writes it. A string
literal need not name a text: an escape may give half of a surrogate pair, or
the octets between the quotes may not be UTF-8. Such a literal, and an object
with such a name, is a value of its own kind, which every reader that asks for
a text refuses and every reader that skips the value accepts.
-/

namespace BookLookup

/-- A JSON value. -/
inductive Json where
  | null
  | bool (value : Bool)
  /-- A number, as it is written. -/
  | number (literal : String)
  | string (text : String)
  | array (elements : List Json)
  /-- Named values in the order in which they are written. -/
  | object (members : List (String × Json))
  /-- A string literal that names no text, or an object with such a name. -/
  | unreadable
  deriving Inhabited

namespace Json

/-- The text of a value that is one. -/
def asString? : Json -> Option String
  | string text => some text
  | _ => none

/-- The truth value of a value that is one. -/
def asBool? : Json -> Option Bool
  | bool value => some value
  | _ => none

/-- An array of texts. -/
def ofStrings (texts : List String) : Json :=
  array (texts.map string)

/-- A number that is a natural number. -/
def ofNat (value : Nat) : Json :=
  number (String.ofList (Nat.toDigits 10 value))

end Json
end BookLookup
