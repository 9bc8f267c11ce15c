import LoadBench.Json.Tree
import LoadBench.Text.Utf8
import LoadBench.Binary64.Notation

/-! Writing JSON: compactly on one line, or indented by two spaces. -/
namespace LoadBench.Json

/-- Shortest digits, plain for decimal orders from -5 to 15, and otherwise with a signed
exponent. -/
def numberStyle : NumeralStyle :=
  ⟨.toEven, fun k => decide (-5 ≤ k ∧ k ≤ 15), true, true⟩

namespace Tree

def ofText (s : String) : Tree := .string ((Utf8.encode s).map .byte)

def ofNat (n : Nat) : Tree := .number (Numeral.ofInt n)

/-- A finite number; JSON has no other, so the rest are written `null`. -/
def ofFloat (x : Binary64) : Tree :=
  if x.isFinite then .number (x.numeral numberStyle) else .null

def record (members : List (String × Tree)) : Tree :=
  .object (members.map fun (name, t) => ((Utf8.encode name).map .byte, t))

end Tree

/-- The octets of characters below U+0080. -/
def ascii (cs : List Char) : List UInt8 := cs.map Char.toUInt8

def hexEscape (n : Nat) : List UInt8 :=
  ascii ['\\', 'u', Nat.digitChar (n / 4096), Nat.digitChar (n / 256 % 16),
    Nat.digitChar (n / 16 % 16), Nat.digitChar (n % 16)]

/-- Quotes, backslashes and control characters are escaped, by a letter where one exists. -/
def Piece.print : Piece → List UInt8
  | .unit u => hexEscape u.toNat
  | .byte b =>
    match Char.ofUInt8 b with
    | '"' => ascii ['\\', '"']
    | '\\' => ascii ['\\', '\\']
    | '\x08' => ascii ['\\', 'b']
    | '\x0C' => ascii ['\\', 'f']
    | '\n' => ascii ['\\', 'n']
    | '\r' => ascii ['\\', 'r']
    | '\t' => ascii ['\\', 't']
    | _ => if b < 0x20 then hexEscape b.toNat else [b]

def Literal.print (s : Literal) : List UInt8 :=
  '"'.toUInt8 :: (s.flatMap Piece.print ++ ['"'.toUInt8])

mutual
/-- The text of a tree, put before what follows it. -/
def Tree.print : Tree → List UInt8
  | .null => ascii ['n', 'u', 'l', 'l']
  | .bool true => ascii ['t', 'r', 'u', 'e']
  | .bool false => ascii ['f', 'a', 'l', 's', 'e']
  | .number n => ascii n.chars
  | .string s => Literal.print s
  | .array items =>
    '['.toUInt8 :: (List.intercalate [','.toUInt8] (printItems items) ++ [']'.toUInt8])
  | .object ms =>
    '{'.toUInt8 :: (List.intercalate [','.toUInt8] (printMembers ms) ++ ['}'.toUInt8])

def printItems : List Tree → List (List UInt8)
  | [] => []
  | t :: ts => t.print :: printItems ts

def printMembers : List (Literal × Tree) → List (List UInt8)
  | [] => []
  | (k, t) :: ms => (Literal.print k ++ ':'.toUInt8 :: t.print) :: printMembers ms
end

/-- The compact text, which is UTF-8 whenever the strings in the tree are. -/
def Tree.text (t : Tree) : String := (Utf8.decode? t.print).getD ""

private def lineBreak (depth : Nat) : List UInt8 :=
  '\n'.toUInt8 :: List.replicate (2 * depth) ' '.toUInt8

mutual
/-- The text with one item or member a line, for a tree at the given depth. Empty arrays and
objects stay on their line. -/
def Tree.printIndented (depth : Nat) : Tree → List UInt8
  | .array (t :: ts) =>
    '['.toUInt8 :: (List.intercalate [','.toUInt8] (indentItems (depth + 1) (t :: ts)) ++
      lineBreak depth ++ [']'.toUInt8])
  | .object (m :: ms) =>
    '{'.toUInt8 :: (List.intercalate [','.toUInt8] (indentMembers (depth + 1) (m :: ms)) ++
      lineBreak depth ++ ['}'.toUInt8])
  | t => t.print

def indentItems (depth : Nat) : List Tree → List (List UInt8)
  | [] => []
  | t :: ts => (lineBreak depth ++ t.printIndented depth) :: indentItems depth ts

def indentMembers (depth : Nat) : List (Literal × Tree) → List (List UInt8)
  | [] => []
  | (k, t) :: ms =>
    (lineBreak depth ++ Literal.print k ++ ascii [':', ' '] ++ t.printIndented depth) ::
      indentMembers depth ms
end

def Tree.indentedText (t : Tree) : String := (Utf8.decode? (t.printIndented 0)).getD ""

end LoadBench.Json
