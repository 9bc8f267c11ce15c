import LoadBench.Text.Quoted.Table

/-! Texts in quotes, with everything spelled out that would not show as itself. -/
namespace LoadBench.Text

private def isSpelledOut (c : Char) : Bool :=
  0x7F ≤ c.toNat && Quoted.spelledOut.any fun (first, last) => first ≤ c.toNat && c.toNat ≤ last

def quotedChar (c : Char) : List Char :=
  if c = '\x00' then ['\\', '0']
  else if c = '\t' then ['\\', 't']
  else if c = '\r' then ['\\', 'r']
  else if c = '\n' then ['\\', 'n']
  else if c = '"' ∨ c = '\\' then ['\\', c]
  else if c.toNat < 0x20 ∨ isSpelledOut c then
    '\\' :: 'u' :: '\x7b' :: Nat.toDigits 16 c.toNat ++ ['\x7d']
  else [c]

def quoted (s : String) : String := String.ofList ('"' :: s.toList.flatMap quotedChar ++ ['"'])

end LoadBench.Text
