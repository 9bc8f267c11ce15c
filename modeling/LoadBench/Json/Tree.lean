import LoadBench.Text.Numeral

/-! JSON texts as trees. A tree keeps what a text says: numerals as written, members in order with
repetitions, and strings as octets and escaped code units, well formed or not. -/
namespace LoadBench.Json

/-- A part of a string: an octet, which an ASCII escape stands for too, or a code unit from an
escape with four hexadecimal digits. -/
inductive Piece
  | byte (b : UInt8)
  | unit (u : UInt16)
  deriving DecidableEq, Repr

abbrev Literal := List Piece

inductive Tree
  | null
  | bool (b : Bool)
  | number (n : Numeral)
  | string (s : Literal)
  | array (items : List Tree)
  | object (members : List (Literal × Tree))
  deriving Repr

end LoadBench.Json
