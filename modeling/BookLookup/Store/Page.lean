import BookLookup.Attribute
import BookLookup.Http.Status
import BookLookup.Json.Reader
import BookLookup.Store.Failure

/-!
# Pages of a scan

The store answers a scan page by page. A page lists items and, unless it is the
last, gives the key after which the next one begins. An answer whose status is
no success names the kind of the failure, after a number sign if anything stands
before it, and has a text; where one of these is missing, a text stands in.
-/

namespace BookLookup

/-- What comes back for a request. -/
inductive Reply where
  | answer (status : Nat) (body : List UInt8)
  /-- The connection fails before the answer is whole. -/
  | broken
  /-- The answer does not become whole in time. -/
  | silent
  deriving DecidableEq, Repr

/-- The reply of a status and the octets that are sent after it. An answer
without content, or about content that has not changed, has no body. -/
def Reply.ofMessage (status : Nat) (content : List UInt8) : Reply :=
  .answer status (if status = 204 ∨ status = 304 then [] else content)

/-- A page of a scan. -/
structure Page where
  /-- The books of the page in order. -/
  records : List StoredRecord
  /-- The key after which the next page begins, unless this is the last. -/
  next : Option Item

/-- The fields of a page: the items and the key of the last. -/
def Page.fieldNames : List (List String) :=
  [["Items"], ["LastEvaluatedKey"]]

/-- The items of an array, within a depth. -/
def itemsWithin? (depth : Nat) : Json -> Option (List Item)
  | .array elements => elements.mapM (Item.ofJson? depth)
  | _ => none

/-- The items and the key of the last that a value writes. -/
def pageItems? (value : Json) : Option (List Item × Option Item) :=
  match Json.fields? Page.fieldNames value with
  | some [items, last] => do
      let items <-
        Json.withDefault? (itemsWithin? (Json.depthLimit - 2)) [] items
      let last <-
        Json.withDefault? (Json.nullable? (Item.ofJson? (Json.depthLimit - 1)))
          none last
      return (items, last)
  | _ => none

/-- A key that has attributes. A key without any ends the scan. -/
def continuing (last : Option Item) : Option Item :=
  last.filter fun key => !key.entries.isEmpty

/-- The books of items in order, or the fault of the first that is no book. -/
def recordsOf (items : List Item) : Except StoreFailure (List StoredRecord) :=
  match items.mapM Item.record with
  | .ok records => .ok records
  | .error fault => .error (.invalidResponse fault.message)

/-- The page that the body of a success writes. -/
def Page.ofBody (body : List UInt8) : Except StoreFailure Page :=
  match (Json.readOctets? body).bind pageItems? with
  | none => .error .undecodable
  | some (items, last) =>
      (recordsOf items).map fun records => ⟨records, continuing last⟩

/-- What the body of a refusal says: the kind of the failure and its text. -/
structure Diagnostic where
  /-- The kind of the failure. -/
  kind : Option String
  /-- The text of the failure. -/
  message : Option String

namespace Diagnostic

/-- The fields of a diagnostic. The text may have either of two names. -/
def fieldNames : List (List String) :=
  [["__type"], ["message", "Message"]]

/-- The diagnostic that a value writes. -/
def ofJson? (value : Json) : Option Diagnostic :=
  match Json.fields? fieldNames value with
  | some [kind, message] => do
      let kind <-
        Json.withDefault? (Json.nullable? Json.asString?) none kind
      let message <-
        Json.withDefault? (Json.nullable? Json.asString?) none message
      return ⟨kind, message⟩
  | _ => none

/-- The diagnostic of a body, which says nothing if it is none. -/
def ofBody (body : List UInt8) : Diagnostic :=
  ((Json.readOctets? body).bind ofJson?).getD ⟨none, none⟩

/-- The part of a text after its last number sign. -/
def shortKind (kind : String) : String :=
  String.ofList (((kind.toList.reverse).takeWhile (· ≠ '#')).reverse)

end Diagnostic

/-- The failure that an answer without success stands for. -/
def StoreFailure.ofAnswer (status : Nat) (body : List UInt8) : StoreFailure :=
  let diagnostic := Diagnostic.ofBody body
  .rejected status
    ((diagnostic.kind.map Diagnostic.shortKind).getD "UnknownError")
    (diagnostic.message.getD
      ("store returned status " ++ HttpStatus.text status))

/-- The page that an answer carries. -/
def Page.ofAnswer (status : Nat) (body : List UInt8) : Except StoreFailure Page :=
  if HttpStatus.isSuccess status then Page.ofBody body
  else .error (.ofAnswer status body)

/-- The page that a reply carries. -/
def Page.ofReply : Reply -> Except StoreFailure Page
  | .answer status body => Page.ofAnswer status body
  | .broken => .error .transport
  | .silent => .error .timeout

end BookLookup
