import BookLookup.Settings.Fault
import BookLookup.Text.Blank
import BookLookup.Text.Split
import BookLookup.TextMap

/-!
# Settings files

A file has one assignment a line: a key, an equals sign and a value. White
space around both does not count, and one pair of quotation marks or of
apostrophes around the value is taken off. Blank lines and lines that begin
with a number sign are skipped. The last assignment to a key counts.
-/

namespace BookLookup
namespace SettingsFile

/-- A value without the pair of marks around it. -/
def unquotedBy? (mark : Char) (value : List Char) : Option (List Char) :=
  match value with
  | first :: second :: others =>
      if first = mark ∧ (second :: others).getLast? = some mark then
        some (second :: others).dropLast
      else none
  | _ => none

/-- A value without a pair of quotation marks or of apostrophes. -/
def unquoted (value : List Char) : List Char :=
  ((unquotedBy? '"' value).or (unquotedBy? '\'' value)).getD value

/-- Whether a trimmed line is skipped. -/
def isSkipped (line : List Char) : Bool :=
  line.isEmpty || line.head? == some '#'

/-- The key and the value of a trimmed line, of which the number is known. -/
def assignment
    (number : Nat)
    (line : List Char) : Except SettingsFault (String × String) :=
  match Split.atFirst? '=' line with
  | none => .error (.malformedLine number)
  | some (key, value) =>
      let key := trim key
      if key.isEmpty then .error (.emptyKey number)
      else .ok (String.ofList key, String.ofList (unquoted (trim value)))

/-- The assignments of numbered lines. -/
def assignments :
    List (List Char × Nat) -> Except SettingsFault (List (String × String))
  | [] => .ok []
  | (line, number) :: others =>
      if isSkipped (trim line) then assignments others
      else do
        let pair <- assignment number (trim line)
        let rest <- assignments others
        return pair :: rest

/-- The values by key of the text of a file. Lines are counted from one. -/
def read (text : String) : Except SettingsFault (TextMap String) :=
  (assignments ((Split.pieces '\n' text.toList).zipIdx 1)).map TextMap.ofPairs

end SettingsFile
end BookLookup
