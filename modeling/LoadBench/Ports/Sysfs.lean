import LoadBench.Address.Text
import LoadBench.File
import LoadBench.Ports.Error

/-! Port addresses from the address files of network interfaces. -/
namespace LoadBench.Sysfs

def addressPath (root interface : String) : String := joinPath (joinPath root interface) "address"

/-- The trimmed text of a file as an address. A fault keeps the trimmed text. -/
def readAddress (path : String) (file : File) : Except PortQueryError Mac :=
  match file.text with
  | .error _ => .error (.unreadable path)
  | .ok s => (Address.parse (String.ofList (Text.trim s.toList))).mapError .format

/-- The addresses of all interfaces in order, or the first fault. -/
def portMacs (fileAt : String → File) (root : String) (interfaces : List String) :
    Except PortQueryError (List Mac) :=
  if interfaces.isEmpty then .error .noPorts
  else interfaces.mapM fun interface =>
    let path := addressPath root interface
    readAddress path (fileAt path)

end LoadBench.Sysfs
