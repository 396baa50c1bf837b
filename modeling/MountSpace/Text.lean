import MountSpace.Text.Combining
import MountSpace.Text.Unprintable

/-!
# `MountSpace.Text`: tables and values shown for people to read

Tables can be shown as text: strings in double quotes, lists in square
brackets, records by name with their fields in curly brackets. Inside
quotes a character that shows no mark of its own, or that would end the
quotes, is written as an escape.
-/

set_option autoImplicit false

namespace MountSpace

namespace Text

/-- Whether a character shows a mark of its own. -/
def isSeen (char : Char) : Bool :=
  !combining.contains char && !unprintable.contains char

/-- A character as it is written between double quotes. -/
def escape (char : Char) : List Char :=
  if char = '"' then ['\\', '"']
  else if char = '\\' then ['\\', '\\']
  else if char = '\n' then ['\\', 'n']
  else if char = '\r' then ['\\', 'r']
  else if char = '\t' then ['\\', 't']
  else if char.toNat = 0 then ['\\', '0']
  else if isSeen char then [char]
  else ['\\', 'u', '\x7b'] ++ Nat.toDigits 16 char.toNat ++ ['\x7d']

/-- A string between double quotes. -/
def quote (text : String) : String :=
  String.ofList (['"'] ++ text.toList.flatMap escape ++ ['"'])

/-- Items in square brackets. -/
def list (items : List String) : String :=
  "[" ++ ", ".intercalate items ++ "]"

/-- A record by name, with its fields in curly brackets. -/
def record (name : String) (fields : List (String × String)) : String :=
  let shown := fields.map fun (field, value) => field ++ ": " ++ value
  name ++ " \x7b " ++ ", ".intercalate shown ++ " \x7d"

end Text

end MountSpace
