import LoadBench.Address.Text
import LoadBench.Proofs.Fallible
import LoadBench.Proofs.Text.Numbers
import LoadBench.Proofs.Text.Parts
import Mathlib.Data.List.Induction

/-!
Addresses, their texts and their octets.

Main statement: an address is read back from its text, whatever blanks stand around it, and from
its octets.
-/
namespace LoadBench

/-- Octets are given back from the number they denote. -/
theorem Octets.ofNat_toNat (os : List UInt8) : Octets.ofNat os.length (Octets.toNat os) = os := by
  induction os using List.reverseRecOn with
  | nil => rfl
  | append_singleton os o ih =>
    have ho := o.toNat_lt
    have hhigh : (256 * Octets.toNat os + o.toNat) / 256 = Octets.toNat os := by omega
    have hlow : UInt8.ofNat (256 * Octets.toNat os + o.toNat) = o := by
      apply UInt8.toNat_inj.1
      rw [UInt8.toNat_ofNat']
      omega
    rw [List.length_append, List.length_singleton, Octets.ofNat, Octets.toNat_append_singleton,
      hhigh, hlow, ih]

namespace Address
variable {k : AddressKind}

theorem toNat_ofOctets {os : List UInt8} (h : os.length = k.width / 8) :
    (ofOctets os : Address k).toNat = Octets.toNat os := by
  have hlt : Octets.toNat os < k.size := by
    rw [size_eq_pow, ← h]
    exact Octets.toNat_lt os
  rw [ofOctets, toNat_ofNat, Nat.mod_eq_of_lt hlt]

theorem octets_ofOctets {os : List UInt8} (h : os.length = k.width / 8) :
    (ofOctets os : Address k).octets = os := by
  rw [octets, toNat_ofOctets h, ← h, Octets.ofNat_toNat]

theorem readDecimalOctet?_toDigits (o : UInt8) :
    readDecimalOctet? (Nat.toDigits 10 o.toNat) = some o := by
  have ho := o.toNat_lt
  have hlength : (Nat.toDigits 10 o.toNat).length ≤ 3 := by
    rw [Nat.length_toDigits_le_iff (by decide) (by decide)]
    omega
  have hvalue : o.toNat ≤ 255 := by omega
  unfold readDecimalOctet?
  rw [Text.readDigits?_toDigits]
  rw [Option.bind_eq_bind, Option.bind_some, if_pos ⟨hlength, hvalue⟩, UInt8.ofNat_toNat]

theorem hexDigit?_digitChar {n : Nat} (h : n < 16) : Text.hexDigit? (Nat.digitChar n) = some n := by
  have hall : ∀ n < 16, Text.hexDigit? (Nat.digitChar n) = some n := by decide
  exact hall n h

theorem readHexOctet?_hexOctet (o : UInt8) : readHexOctet? (Text.hexOctet o) = some o := by
  have ho := o.toNat_lt
  have hhigh := hexDigit?_digitChar (show o.toNat / 16 < 16 by omega)
  have hlow := hexDigit?_digitChar (show o.toNat % 16 < 16 by omega)
  have hvalue : Text.readHex? (Text.hexOctet o) = some o.toNat := by
    unfold Text.readHex? Text.hexOctet
    simp only [List.foldlM_cons, List.foldlM_nil, hhigh, hlow, Option.map_some, Option.bind_eq_bind,
      Option.bind_some, Option.pure_def]
    congr 1
    omega
  unfold readHexOctet?
  rw [if_pos (.inr rfl), hvalue, Option.map_some, UInt8.ofNat_toNat]

/-- Octets between separators are read back, where the separator is in none of them. -/
theorem readOctets?_intercalate {count : Nat} {separator : Char}
    {octet? : List Char → Option UInt8} {write : UInt8 → List Char}
    (hread : ∀ o, octet? (write o) = some o) (hseparator : ∀ o, separator ∉ write o)
    {os : List UInt8} (hlength : os.length = count) (hcount : 0 < count) :
    readOctets? count separator octet? (List.intercalate [separator] (os.map write)) =
      some (ofOctets os : Address k) := by
  have hparts : (List.intercalate [separator] (os.map write)).splitOn separator = os.map write := by
    apply List.splitOn_intercalate
    · intro part hpart
      obtain ⟨o, -, rfl⟩ := List.mem_map.1 hpart
      exact hseparator o
    · intro hnil
      rw [List.map_eq_nil_iff.1 hnil] at hlength
      exact absurd hlength (Nat.ne_of_lt hcount)
  unfold readOctets?
  rw [hparts, mapM_map_eq_some fun o _ => hread o]
  exact if_pos hlength

/-- The characters that addresses are written with, apart from separators. -/
def IsHexChar (c : Char) : Prop := ∃ n < 16, c = Nat.digitChar n

theorem isHexChar_of_mem_toDigits {n : Nat} {c : Char} (h : c ∈ Nat.toDigits 10 n) :
    IsHexChar c := by
  have hdigit := Nat.isDigit_of_mem_toDigits (by decide) (by decide) h
  obtain ⟨d, rfl⟩ := Digit.exists_char hdigit
  exact ⟨d.val, by omega, rfl⟩

theorem isHexChar_of_mem_hexOctet {o : UInt8} {c : Char} (h : c ∈ Text.hexOctet o) :
    IsHexChar c := by
  have ho := o.toNat_lt
  simp only [Text.hexOctet, List.mem_cons, List.not_mem_nil, or_false] at h
  rcases h with rfl | rfl
  · exact ⟨_, by omega, rfl⟩
  · exact ⟨_, by omega, rfl⟩

theorem IsHexChar.ne {c : Char} (h : IsHexChar c) : c ≠ '.' ∧ c ≠ ':' := by
  obtain ⟨n, hn, rfl⟩ := h
  revert n
  decide

theorem IsHexChar.isBlank_eq_false {c : Char} (h : IsHexChar c) : Text.isBlank c = false := by
  obtain ⟨n, hn, rfl⟩ := h
  revert n
  decide

theorem mem_chars {a : Address k} {c : Char} (h : c ∈ a.chars) :
    c = '.' ∨ c = ':' ∨ IsHexChar c := by
  cases k with
  | ipv4 =>
    rcases mem_intercalate h with hc | ⟨part, hpart, hc⟩
    · exact .inl (List.mem_singleton.1 hc)
    · obtain ⟨o, -, rfl⟩ := List.mem_map.1 hpart
      exact .inr (.inr (isHexChar_of_mem_toDigits hc))
  | mac =>
    rcases mem_intercalate h with hc | ⟨part, hpart, hc⟩
    · exact .inr (.inl (List.mem_singleton.1 hc))
    · obtain ⟨o, -, rfl⟩ := List.mem_map.1 hpart
      exact .inr (.inr (isHexChar_of_mem_hexOctet hc))
  | port => exact .inr (.inr (isHexChar_of_mem_toDigits h))

/-- No address has a blank in its text. -/
theorem isBlank_of_mem_chars {a : Address k} {c : Char} (h : c ∈ a.chars) :
    Text.isBlank c = false := by
  rcases mem_chars h with rfl | rfl | hc
  · rfl
  · rfl
  · exact hc.isBlank_eq_false

/-- The separator of lists and of counts stands in no address. -/
theorem comma_notMem_chars (a : Address k) : ',' ∉ a.chars := by
  intro h
  rcases mem_chars h with hc | hc | ⟨n, hn, hc⟩
  · exact absurd hc (by decide)
  · exact absurd hc (by decide)
  · revert n
    decide

/-- An address is read back from its text. -/
theorem read?_chars (a : Address k) : read? a.chars = some a := by
  have hoctets : a.octets.length = k.width / 8 := Octets.length_ofNat ..
  cases k with
  | ipv4 =>
    have hread := readOctets?_intercalate (k := .ipv4) readDecimalOctet?_toDigits
      (fun _ hmem => (isHexChar_of_mem_toDigits hmem).ne.1 rfl) hoctets (by decide)
    rwa [ofOctets_octets] at hread
  | mac =>
    have hread := readOctets?_intercalate (k := .mac) readHexOctet?_hexOctet
      (fun _ hmem => (isHexChar_of_mem_hexOctet hmem).ne.2 rfl) hoctets (by decide)
    rwa [ofOctets_octets] at hread
  | port =>
    have hfits : a.toNat < UInt16.size := a.toNat_lt
    unfold read? chars
    dsimp only
    rw [Text.readDigits?_toDigits, Option.bind_eq_bind, Option.bind_some, if_pos hfits,
      ofNat_toNat]

theorem parse_surrounded (a : Address k) (front back : String)
    (hfront : ∀ c ∈ front.toList, Text.isBlank c = true)
    (hback : ∀ c ∈ back.toList, Text.isBlank c = true) :
    parse (front ++ a.text ++ back) = .ok a := by
  have htrim : Text.trim (front ++ a.text ++ back).toList = a.chars := by
    rw [String.toList_append, String.toList_append, text, String.toList_ofList]
    exact Text.trimBy_surrounded hfront (fun _ => isBlank_of_mem_chars) hback
  unfold parse
  rw [htrim, read?_chars]

theorem parse_text (a : Address k) : parse a.text = .ok a := by
  have hparse := a.parse_surrounded "" "" (by simp) (by simp)
  rwa [String.empty_append, String.append_empty] at hparse

theorem text_injective : Function.Injective (text : Address k → String) := by
  intro a b htext
  have hparse := a.parse_text
  rw [htext, parse_text] at hparse
  exact (Except.ok.inj hparse).symm

/-- Writing and reading are inverse to each other. An address is read from its text with any blanks
around it; no two addresses have one text; an accepted text and the canonical one name the same
address; numbers and successors are cut to the width of the kind; and an address is the same
thing as its octets, which are read as its number. -/
theorem parse_text_inverse (k : AddressKind) :
    (∀ (a : Address k) (front back : String), (∀ c ∈ front.toList, Text.isBlank c = true) →
      (∀ c ∈ back.toList, Text.isBlank c = true) → parse (front ++ a.text ++ back) = .ok a) ∧
    Function.Injective (text : Address k → String) ∧
    (∀ (t : String) (a : Address k), parse t = .ok a → parse (k := k) a.text = parse t) ∧
    (∀ a : Address k, a.toNat < Nat.pow 2 k.width ∧
      a.succ.toNat = (a.toNat + 1) % Nat.pow 2 k.width) ∧
    (∀ n, (ofNat n : Address k).toNat = n % Nat.pow 2 k.width) ∧
    (∀ a : Address k, ofOctets a.octets = a) ∧
    ∀ os : List UInt8, os.length = k.width / 8 →
      (ofOctets os : Address k).octets = os ∧
        (ofOctets os : Address k).toNat = Octets.toNat os := by
  refine ⟨parse_surrounded, text_injective, ?_, ?_, toNat_ofNat, ofOctets_octets, ?_⟩
  · intro t a ht
    rw [ht, parse_text]
  · exact fun a => ⟨a.toNat_lt, a.toNat_add 1⟩
  · exact fun os hos => ⟨octets_ofOctets hos, toNat_ofOctets hos⟩

/-- A MAC address between blanks, its octets, and an accepted text of it that is not canonical. -/
theorem parse_text_inverse_other_spelling :
    let a : Mac := ofNat 0x0A0B0C0D0E0F
    let t := " A:0b:C:0D:e:0f"
    let os : List UInt8 := [10, 11, 12, 13, 14, 15]
    (∀ c ∈ "\u2003".toList, Text.isBlank c = true) ∧ (∀ c ∈ "\r\n".toList, Text.isBlank c = true) ∧
      parse ("\u2003" ++ a.text ++ "\r\n") = .ok a ∧ parse t = .ok a ∧ t ≠ a.text ∧
      parse (k := .mac) a.text = parse t ∧ os.length = AddressKind.mac.width / 8 ∧
      (ofOctets os : Mac).octets = os ∧ (ofOctets os : Mac).toNat = Octets.toNat os := by
  intro a t os
  have hfront : ∀ c ∈ "\u2003".toList, Text.isBlank c = true := List.all_eq_true.1 (by decide)
  have hback : ∀ c ∈ "\r\n".toList, Text.isBlank c = true := List.all_eq_true.1 (by decide)
  have ht : parse t = .ok a := by decide +kernel
  have hos : os.length = AddressKind.mac.width / 8 := by decide
  obtain ⟨hsurrounded, -, hcanonical, -, -, -, hoctets⟩ := parse_text_inverse .mac
  exact ⟨hfront, hback, hsurrounded a _ _ hfront hback, ht, by decide +kernel,
    hcanonical t a ht, hos, hoctets os hos⟩

end Address
end LoadBench
