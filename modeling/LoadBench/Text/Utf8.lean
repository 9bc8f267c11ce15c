/-! UTF-8: strings as octets, strict decoding, and decoding with replacement characters. -/
namespace LoadBench.Utf8

def encode (s : String) : List UInt8 := s.toByteArray.data.toList

/-- The string with the given octets, if they are well-formed UTF-8. -/
def decode? (bs : List UInt8) : Option String := String.fromUTF8? ⟨bs.toArray⟩

@[simp] theorem decode?_encode (s : String) : decode? (encode s) = some s := by
  have h : (⟨(encode s).toArray⟩ : ByteArray) = s.toByteArray := by simp [encode]
  rw [decode?, h, String.fromUTF8?, dif_pos s.isValidUTF8]
  rfl

theorem encode_of_decode? {bs : List UInt8} {s : String} (h : decode? bs = some s) :
    encode s = bs := by
  simp only [decode?, String.fromUTF8?] at h
  split at h
  · obtain rfl := Option.some.inj h
    rfl
  · cases h

/-- The octets that may follow a lead octet, one range for each; `none` if the octet cannot
lead. -/
def continuations? (b : UInt8) : Option (List (UInt8 × UInt8)) :=
  let any : UInt8 × UInt8 := (0x80, 0xBF)
  if b < 0x80 then some []
  else if b < 0xC2 then none
  else if b < 0xE0 then some [any]
  else if b = 0xE0 then some [(0xA0, 0xBF), any]
  else if b = 0xED then some [(0x80, 0x9F), any]
  else if b < 0xF0 then some [any, any]
  else if b = 0xF0 then some [(0x90, 0xBF), any, any]
  else if b < 0xF4 then some [any, any, any]
  else if b = 0xF4 then some [(0x80, 0x8F), any, any]
  else none

/-- The longest prefix that follows the ranges, and the number of ranges left over. -/
def takeInRanges : List (UInt8 × UInt8) → List UInt8 → List UInt8 × Nat
  | (lo, hi) :: rs, b :: bs =>
    if lo ≤ b ∧ b ≤ hi then
      let (taken, missing) := takeInRanges rs bs
      (b :: taken, missing)
    else ([], rs.length + 1)
  | rs, _ => ([], rs.length)

/-- Decode, with U+FFFD for each octet that cannot lead and for each sequence that breaks off. -/
def decodeLossy (bs : List UInt8) : String := String.ofList (go bs.length bs)
where
  go : Nat → List UInt8 → List Char
    | 0, _ => []
    | _, [] => []
    | fuel + 1, b :: bs =>
      match continuations? b with
      | none => '\uFFFD' :: go fuel bs
      | some rs =>
        let (taken, missing) := takeInRanges rs bs
        let rest := go fuel (bs.drop taken.length)
        match missing, decode? (b :: taken) with
        | 0, some s => s.toList ++ rest
        | _, _ => '\uFFFD' :: rest

end LoadBench.Utf8
