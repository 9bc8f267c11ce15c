import LoadBench.Text.LowerCase.Table

/-! Lower case of whole texts, with the rule for a sigma that ends a word. -/
namespace LoadBench.Text

/-- The lower case of one character outside of any context. -/
def lowerChar (c : Char) : List Char :=
  if c = 'İ' then ['i', '\u0307']
  else
    match LowerCase.runs.find? fun r => r.contains c.toNat with
    | some r => [Char.ofNat (r.lower c.toNat)]
    | none => [c]

def isCased (c : Char) : Bool := LowerCase.inRanges LowerCase.cased c.toNat

def isCaseIgnorable (c : Char) : Bool := LowerCase.inRanges LowerCase.caseIgnorable c.toNat

/-- A cased letter comes first, after any characters that case ignores. -/
def casedFirst (cs : List Char) : Bool :=
  match cs.dropWhile isCaseIgnorable with
  | [] => false
  | c :: _ => isCased c

/-- Lower case, given what came before, latest first. A capital sigma becomes the final form when a
cased letter precedes it and none follows. -/
def lowerAfter : List Char → List Char → List Char
  | _, [] => []
  | before, c :: after =>
    let lower :=
      if c = 'Σ' then [if casedFirst before && !casedFirst after then 'ς' else 'σ']
      else lowerChar c
    lower ++ lowerAfter (c :: before) after

def lowerCase (s : String) : List Char := lowerAfter [] s.toList

/-- Whether a text occurs inside another. -/
def occursIn (needle : List Char) : List Char → Bool
  | [] => needle.isEmpty
  | c :: cs => needle.isPrefixOf (c :: cs) || occursIn needle cs

end LoadBench.Text
