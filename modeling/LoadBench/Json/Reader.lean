import LoadBench.Json.Tree
import LoadBench.Text.Natural
import LoadBench.Text.Utf8

/-! Reading JSON texts, octet by octet, with a stack of the arrays and objects that are open. -/
namespace LoadBench.Json

/-- JSON's white space. -/
def isSpace (b : UInt8) : Bool := b == 0x20 || b == 0x09 || b == 0x0A || b == 0x0D

/-- An open array or object. Items and members are kept latest first. -/
inductive Frame
  | array (items : List Tree)
  | object (members : List (Literal × Tree))
  | member (members : List (Literal × Tree)) (key : Literal)

/-- What the last octet of a numeral was. -/
inductive NumeralEnd | minus | zero | whole | point | fraction | mark | sign | exponent
  deriving DecidableEq

/-- Whether a numeral may end there. -/
def NumeralEnd.isComplete : NumeralEnd → Bool
  | .zero | .whole | .fraction | .exponent => true
  | _ => false

/-- What the reader expects next. Strings and digits are kept latest first. -/
inductive Mode
  | value (orClose : Bool)
  | key (orClose : Bool)
  | colon (key : Literal)
  | afterValue
  | word (rest : List UInt8) (value : Tree)
  | numeral (last : NumeralEnd) (n : Numeral)
  | string (isKey : Bool) (read : Literal)
  | escape (isKey : Bool) (read : Literal)
  | hex (isKey : Bool) (read : Literal) (digits : List Nat)
  | done (value : Tree)

structure Reader where
  stack : List Frame
  mode : Mode

namespace Reader

def start : Reader := ⟨[], .value false⟩

/-- Hand a complete value to the innermost open array or object. -/
def deliver (t : Tree) : List Frame → Option Reader
  | [] => some ⟨[], .done t⟩
  | .array items :: fs => some ⟨.array (t :: items) :: fs, .afterValue⟩
  | .member ms key :: fs => some ⟨.object ((key, t) :: ms) :: fs, .afterValue⟩
  | .object _ :: _ => none

def closeArray : List Frame → Option Reader
  | .array items :: fs => deliver (.array items.reverse) fs
  | _ => none

def closeObject : List Frame → Option Reader
  | .object ms :: fs => deliver (.object ms.reverse) fs
  | _ => none

def startValue (stack : List Frame) (b : UInt8) : Option Reader :=
  let numeral (negative : Bool) (whole : List Digit) (last : NumeralEnd) : Option Reader :=
    some ⟨stack, .numeral last ⟨negative, whole, [], none⟩⟩
  match Char.ofUInt8 b with
  | '"' => some ⟨stack, .string false []⟩
  | '[' => some ⟨.array [] :: stack, .value true⟩
  | '{' => some ⟨.object [] :: stack, .key true⟩
  | 'n' => some ⟨stack, .word (Utf8.encode "ull") .null⟩
  | 't' => some ⟨stack, .word (Utf8.encode "rue") (.bool true)⟩
  | 'f' => some ⟨stack, .word (Utf8.encode "alse") (.bool false)⟩
  | '-' => numeral true [] .minus
  | '0' => numeral false [.zero] .zero
  | c => (Digit.ofChar? c).bind fun d => numeral false [d] .whole

/-- The numeral with one more octet, if the octet belongs to it. -/
def extendNumeral (last : NumeralEnd) (n : Numeral) (b : UInt8) : Option (NumeralEnd × Numeral) :=
  let c := Char.ofUInt8 b
  let mark (upper : Bool) : Option (NumeralEnd × Numeral) :=
    some (.mark, { n with exponent := some (upper, .none, []) })
  match last, Digit.ofChar? c, c, n.exponent with
  | .minus, some d, _, _ => some (if d = .zero then .zero else .whole, { n with whole := [d] })
  | .whole, some d, _, _ => some (.whole, { n with whole := d :: n.whole })
  | .point, some d, _, _ | .fraction, some d, _, _ =>
    some (.fraction, { n with fraction := d :: n.fraction })
  | .zero, _, '.', _ | .whole, _, '.', _ => some (.point, n)
  | .zero, _, 'e', _ | .whole, _, 'e', _ | .fraction, _, 'e', _ => mark false
  | .zero, _, 'E', _ | .whole, _, 'E', _ | .fraction, _, 'E', _ => mark true
  | .mark, _, '+', some (upper, _, _) =>
    some (.sign, { n with exponent := some (upper, .plus, []) })
  | .mark, _, '-', some (upper, _, _) =>
    some (.sign, { n with exponent := some (upper, .minus, []) })
  | .mark, some d, _, some (upper, sign, ds) | .sign, some d, _, some (upper, sign, ds)
  | .exponent, some d, _, some (upper, sign, ds) =>
    some (.exponent, { n with exponent := some (upper, sign, d :: ds) })
  | _, _, _, _ => none

/-- A numeral whose digits were kept latest first, in reading order. -/
def finishNumeral (n : Numeral) : Numeral :=
  { n with
    whole := n.whole.reverse
    fraction := n.fraction.reverse
    exponent := n.exponent.map fun (upper, sign, ds) => (upper, sign, ds.reverse) }

/-- The octet that a backslash and a letter stand for. -/
def escaped? (b : UInt8) : Option UInt8 :=
  match Char.ofUInt8 b with
  | '"' | '\\' | '/' => some b
  | 'b' => some 0x08
  | 'f' => some 0x0C
  | 'n' => some 0x0A
  | 'r' => some 0x0D
  | 't' => some 0x09
  | _ => none

/-- The piece that four hexadecimal digits stand for, given last digit first. -/
def pieceOfHex (digits : List Nat) : Piece :=
  let n := digits.foldr (fun d n => 16 * n + d) 0
  if n < 0x80 then .byte (UInt8.ofNat n) else .unit (UInt16.ofNat n)

def endString (stack : List Frame) (isKey : Bool) (read : Literal) : Option Reader :=
  if isKey then some ⟨stack, .colon read.reverse⟩ else deliver (.string read.reverse) stack

/-- One octet where no value, key or literal is being read. -/
def between (r : Reader) (b : UInt8) : Option Reader :=
  if isSpace b then some r
  else match r.mode, Char.ofUInt8 b, r.stack with
    | .value true, ']', stack => closeArray stack
    | .value _, _, stack => startValue stack b
    | .key _, '"', stack => some ⟨stack, .string true []⟩
    | .key true, '}', stack => closeObject stack
    | .colon key, ':', .object ms :: fs => some ⟨.member ms key :: fs, .value false⟩
    | .afterValue, ',', .array items :: fs => some ⟨.array items :: fs, .value false⟩
    | .afterValue, ',', .object ms :: fs => some ⟨.object ms :: fs, .key false⟩
    | .afterValue, ']', stack => closeArray stack
    | .afterValue, '}', stack => closeObject stack
    | _, _, _ => none

def step (r : Reader) (b : UInt8) : Option Reader :=
  match r.mode with
  | .word rest t =>
    match rest with
    | [] => none
    | c :: cs =>
      if b ≠ c then none
      else if cs.isEmpty then deliver t r.stack
      else some ⟨r.stack, .word cs t⟩
  | .numeral last n =>
    match extendNumeral last n b with
    | some (last, n) => some ⟨r.stack, .numeral last n⟩
    | none =>
      if last.isComplete then
        (deliver (.number (finishNumeral n)) r.stack).bind fun r => r.between b
      else none
  | .string isKey read =>
    match Char.ofUInt8 b with
    | '"' => endString r.stack isKey read
    | '\\' => some ⟨r.stack, .escape isKey read⟩
    | _ => if b < 0x20 then none else some ⟨r.stack, .string isKey (.byte b :: read)⟩
  | .escape isKey read =>
    if Char.ofUInt8 b = 'u' then some ⟨r.stack, .hex isKey read []⟩
    else (escaped? b).map fun c => ⟨r.stack, .string isKey (.byte c :: read)⟩
  | .hex isKey read digits => do
    let d ← Text.hexDigit? (Char.ofUInt8 b)
    let digits := d :: digits
    if digits.length < 4 then some ⟨r.stack, .hex isKey read digits⟩
    else some ⟨r.stack, .string isKey (pieceOfHex digits :: read)⟩
  | _ => r.between b

/-- The value read, if the text may end there. -/
def result? (r : Reader) : Option Tree :=
  match r.mode, r.stack with
  | .done t, _ => some t
  | .numeral last n, [] => if last.isComplete then some (.number (finishNumeral n)) else none
  | _, _ => none

end Reader

/-- Read one value, with white space around it and nothing else. -/
def Tree.parse? (text : List UInt8) : Option Tree :=
  (text.foldlM Reader.step Reader.start).bind Reader.result?

end LoadBench.Json
