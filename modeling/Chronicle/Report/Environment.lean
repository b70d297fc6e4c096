import Chronicle.Message
import Chronicle.Octets.Utf8

/-!
# The environment of a run

What a report says about where the tests ran: one line `key = value` for each entry, sorted by key.
-/
namespace Chronicle.Environment

/-- The name of the file. -/
def fileName : String := "environment.properties"

/-- The entries sorted by key. -/
def sorted (info : List (String × String)) : List (String × String) :=
  info.mergeSort fun a b => !(b.1 < a.1)

/-- The line of an entry. -/
def line (entry : String × String) : List Char :=
  entry.1.toList ++ " = ".toList ++ entry.2.toList ++ ['\n']

/-- The text of the file. -/
def text (info : List (String × String)) : List Char :=
  (sorted info).flatMap line

/-- The content of the file. -/
def content (info : List (String × String)) : Bytes :=
  Utf8.encode (text info)

end Chronicle.Environment
