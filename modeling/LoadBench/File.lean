import LoadBench.Fault
import LoadBench.Text.Utf8

/-! Files as their readers find them, and paths. -/
namespace LoadBench

/-- What stands at a path: nothing, something that cannot be read, or octets. -/
inductive File
  | absent
  | unreadable
  | octets (content : List UInt8)
  deriving DecidableEq, Repr

inductive ReadFault | absent | unreadable
  deriving DecidableEq, Repr

/-- The text of a file, which has to be UTF-8. -/
def File.text : File → Except ReadFault String
  | .absent => .error .absent
  | .unreadable => .error .unreadable
  | .octets content =>
    match Utf8.decode? content with
    | some s => .ok s
    | none => .error .unreadable

/-- The path of an entry below a directory. An absolute entry is a path of its own, and a separator
is added where the directory does not end in one. -/
def joinPath (dir entry : String) : String :=
  if entry.startsWith "/" then entry
  else if dir.isEmpty || dir.endsWith "/" then dir ++ entry
  else dir ++ "/" ++ entry

end LoadBench
