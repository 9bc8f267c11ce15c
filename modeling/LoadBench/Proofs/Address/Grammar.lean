import LoadBench.Proofs.Address.Text
import LoadBench.Proofs.Octets
import LoadBench.Proofs.Text.Unsigned

/-!
The grammar of addresses.

Main statement: a text is accepted exactly when it is four decimal octets between dots, six octets in
hexadecimal between colons, or the digits of a port, in each case with blanks around it, and then it
gives the address of that number; each other text is reported as it is.
-/
namespace LoadBench
namespace Text

/-- A hexadecimal digit of either case, and its number. -/
def HexDigit (c : Char) (n : Nat) : Prop :=
  n < 16 ∧ (c = Nat.digitChar n ∨ c = (Nat.digitChar n).toUpper)

instance (c : Char) (n : Nat) : Decidable (HexDigit c n) :=
  inferInstanceAs (Decidable (_ ∧ _))

variable {c : Char} {n : Nat}

theorem toNat_lt_of_hexDigit? (h : hexDigit? c = some n) : c.toNat < 128 := by
  unfold hexDigit? at h
  split at h
  · rename_i hdigit
    have hdigits : ∀ d : Digit, d.char.toNat < 128 := by decide
    obtain ⟨d, rfl⟩ := Digit.exists_char hdigit
    exact hdigits d
  split at h
  · rename_i hletter
    have hle : c.toNat ≤ 'f'.toNat := hletter.2
    exact Nat.lt_of_le_of_lt hle (by decide)
  split at h
  · rename_i hletter
    have hle : c.toNat ≤ 'F'.toNat := hletter.2
    exact Nat.lt_of_le_of_lt hle (by decide)
  · cases h

theorem hexDigit?_eq_some_iff : hexDigit? c = some n ↔ HexDigit c n := by
  constructor
  · intro h
    have hall : ∀ m < 128, ∀ k ∈ hexDigit? (Char.ofNat m), HexDigit (Char.ofNat m) k := by
      decide +kernel
    have hdigit := hall c.toNat (toNat_lt_of_hexDigit? h) n
    rw [Char.ofNat_toNat] at hdigit
    exact hdigit h
  · have hlower : ∀ n < 16, hexDigit? (Nat.digitChar n) = some n := by decide
    have hupper : ∀ n < 16, hexDigit? (Nat.digitChar n).toUpper = some n := by decide
    rintro ⟨hn, rfl | rfl⟩
    · exact hlower n hn
    · exact hupper n hn

theorem HexDigit.ne_colon (h : HexDigit c n) : c ≠ ':' := by
  obtain ⟨hn, rfl | rfl⟩ := h <;>
  · revert n
    decide

theorem HexDigit.isBlank_eq_false (h : HexDigit c n) : isBlank c = false := by
  obtain ⟨hn, rfl | rfl⟩ := h <;>
  · revert n
    decide

end Text

namespace Address
variable {k : AddressKind}

open Text (HexDigit Surrounded)

/-- One or two hexadecimal digits, and the octet that they denote. -/
inductive HexOctet : List Char → UInt8 → Prop
  | one {c : Char} {n : Nat} (digit : HexDigit c n) : HexOctet [c] (UInt8.ofNat n)
  | two {c d : Char} {m n : Nat} (high : HexDigit c m) (low : HexDigit d n) :
      HexOctet [c, d] (UInt8.ofNat (16 * m + n))

theorem readHexOctet?_eq_some_iff {cs : List Char} {o : UInt8} :
    readHexOctet? cs = some o ↔ HexOctet cs o := by
  unfold readHexOctet?
  constructor
  · intro h
    split at h
    · rename_i hlength
      obtain ⟨value, hvalue, rfl⟩ := Option.map_eq_some_iff.1 h
      rcases hlength with hlength | hlength
      · obtain ⟨c, rfl⟩ := List.length_eq_one_iff.1 hlength
        obtain ⟨n, hn, hvalue⟩ := Option.bind_eq_some_iff.1 hvalue
        obtain ⟨m, hm, rfl⟩ := Option.map_eq_some_iff.1 hn
        cases hvalue
        rw [Nat.mul_zero, Nat.zero_add]
        exact .one (Text.hexDigit?_eq_some_iff.1 hm)
      · obtain ⟨c, d, rfl⟩ := List.length_eq_two.1 hlength
        obtain ⟨high, hhigh, hvalue⟩ := Option.bind_eq_some_iff.1 hvalue
        obtain ⟨m, hm, rfl⟩ := Option.map_eq_some_iff.1 hhigh
        obtain ⟨low, hlow, hvalue⟩ := Option.bind_eq_some_iff.1 hvalue
        obtain ⟨n, hn, rfl⟩ := Option.map_eq_some_iff.1 hlow
        cases hvalue
        rw [Nat.mul_zero, Nat.zero_add]
        exact .two (Text.hexDigit?_eq_some_iff.1 hm) (Text.hexDigit?_eq_some_iff.1 hn)
    · cases h
  · intro h
    cases h with
    | @one c n digit =>
      have hdigit := Text.hexDigit?_eq_some_iff.2 digit
      have hvalue : Text.readHex? [c] = some n := by simp [Text.readHex?, hdigit]
      rw [if_pos (.inl rfl), hvalue, Option.map_some]
    | @two c d m n high low =>
      have hhigh := Text.hexDigit?_eq_some_iff.2 high
      have hlow := Text.hexDigit?_eq_some_iff.2 low
      have hvalue : Text.readHex? [c, d] = some (16 * m + n) := by simp [Text.readHex?, hhigh, hlow]
      rw [if_pos (.inr rfl), hvalue, Option.map_some]

theorem HexOctet.exists_hexDigit {cs : List Char} {o : UInt8} (h : HexOctet cs o) {c : Char}
    (hc : c ∈ cs) : ∃ n, HexDigit c n := by
  cases h with
  | one digit =>
    obtain rfl := List.mem_singleton.1 hc
    exact ⟨_, digit⟩
  | two high low =>
    rcases List.mem_cons.1 hc with rfl | hc
    · exact ⟨_, high⟩
    · obtain rfl := List.mem_singleton.1 hc
      exact ⟨_, low⟩

/-- Octets between separators, where the separator is in none of them. -/
theorem readOctets?_eq_some_iff {count : Nat} {separator : Char}
    {octet? : List Char → Option UInt8} {Spells : List Char → UInt8 → Prop}
    (hspells : ∀ cs o, octet? cs = some o ↔ Spells cs o)
    (hseparator : ∀ cs o, Spells cs o → separator ∉ cs) (hcount : 0 < count) {cs : List Char}
    {a : Address k} :
    readOctets? count separator octet? cs = some a ↔
      ∃ fields os, cs = List.intercalate [separator] fields ∧ List.Forall₂ Spells fields os ∧
        os.length = count ∧ a = ofOctets os := by
  unfold readOctets?
  constructor
  · intro h
    obtain ⟨os, hos, h⟩ := Option.bind_eq_some_iff.1 h
    split at h
    · rename_i hlength
      cases h
      refine ⟨cs.splitOn separator, os, (List.intercalate_splitOn separator).symm, ?_, hlength, rfl⟩
      exact (mapM_eq_some_iff.1 hos).imp fun field o => (hspells field o).1
    · cases h
  · rintro ⟨fields, os, rfl, hfields, hlength, rfl⟩
    have hne : fields ≠ [] := by
      rintro rfl
      cases hfields
      exact absurd hlength (Nat.ne_of_lt hcount)
    have hnone : ∀ field ∈ fields, separator ∉ field := by
      intro field hfield
      obtain ⟨o, -, ho⟩ := exists_right_of_forall₂ hfields hfield
      exact hseparator field o ho
    have hos : fields.mapM octet? = some os :=
      mapM_eq_some_iff.2 (hfields.imp fun field o => (hspells field o).2)
    rw [List.splitOn_intercalate separator hnone hne, hos, Option.bind_eq_bind, Option.bind_some,
      if_pos hlength]

/-- One to three decimal digits, and the octet that they denote. -/
def DecimalOctet (cs : List Char) (o : UInt8) : Prop := cs.length ≤ 3 ∧ Text.Denotes cs o.toNat

theorem readDecimalOctet?_eq_some_iff {cs : List Char} {o : UInt8} :
    readDecimalOctet? cs = some o ↔ DecimalOctet cs o := by
  unfold readDecimalOctet?
  constructor
  · intro h
    obtain ⟨n, hn, h⟩ := Option.bind_eq_some_iff.1 h
    split at h
    · rename_i hfits
      cases h
      have hdigits : Text.Denotes cs n := Text.readDigits?_eq_some_iff.1 hn
      have hvalue : (UInt8.ofNat n).toNat = n := by
        rw [UInt8.toNat_ofNat']
        omega
      exact ⟨hfits.1, by rwa [hvalue]⟩
    · cases h
  · rintro ⟨hlength, hdigits⟩
    have hread : Text.readDigits? cs = some o.toNat := Text.readDigits?_eq_some_iff.2 hdigits
    have ho := o.toNat_lt
    have hvalue : o.toNat ≤ 255 := by omega
    rw [hread, Option.bind_eq_bind, Option.bind_some, if_pos ⟨hlength, hvalue⟩, UInt8.ofNat_toNat]

theorem DecimalOctet.isDigit {cs : List Char} {o : UInt8} (h : DecimalOctet cs o) {c : Char}
    (hc : c ∈ cs) : c.isDigit = true := h.2.isDigit hc

/-- Octets between separators, and the number that they make up, with the most significant octet
first. -/
def SpellsOctets (count : Nat) (separator : Char) (Octet : List Char → UInt8 → Prop)
    (cs : List Char) (n : Nat) : Prop :=
  ∃ fields os, cs = List.intercalate [separator] fields ∧ List.Forall₂ Octet fields os ∧
    os.length = count ∧ n = Nat.ofDigits 256 (os.map UInt8.toNat).reverse

/-- The texts of an address, without blanks around them, and its number. -/
def Spells : (k : AddressKind) → List Char → Nat → Prop
  | .ipv4 => SpellsOctets 4 '.' DecimalOctet
  | .mac => SpellsOctets 6 ':' HexOctet
  | .port => fun cs n => Text.Denotes cs n ∧ n ≤ 65535

/-- The text of an address in any spelling, with blanks around it, and its number. -/
def IsTextOf (k : AddressKind) (s : String) (n : Nat) : Prop :=
  ∃ core, Spells k core n ∧ Surrounded core s.toList

theorem spellsOctets_iff {count : Nat} {separator : Char} {Octet : List Char → UInt8 → Prop}
    {cs : List Char} {a : Address k} (hcount : count = k.width / 8) :
    SpellsOctets count separator Octet cs a.toNat ↔
      ∃ fields os, cs = List.intercalate [separator] fields ∧ List.Forall₂ Octet fields os ∧
        os.length = count ∧ a = ofOctets os := by
  unfold SpellsOctets
  constructor
  · rintro ⟨fields, os, hcs, hfields, hlength, hnumber⟩
    refine ⟨fields, os, hcs, hfields, hlength, ext_toNat ?_⟩
    rw [hnumber, toNat_ofOctets (hlength.trans hcount), Octets.toNat_eq_ofDigits]
  · rintro ⟨fields, os, hcs, hfields, hlength, rfl⟩
    refine ⟨fields, os, hcs, hfields, hlength, ?_⟩
    rw [toNat_ofOctets (hlength.trans hcount), Octets.toNat_eq_ofDigits]

theorem read?_eq_some_iff {cs : List Char} {a : Address k} :
    read? cs = some a ↔ Spells k cs a.toNat := by
  cases k with
  | ipv4 =>
    have hdot : ∀ cs o, DecimalOctet cs o → '.' ∉ cs := by
      intro cs o ho hc
      exact absurd (ho.isDigit hc) (by decide)
    have hcount : 4 = AddressKind.ipv4.width / 8 := rfl
    show readOctets? 4 '.' readDecimalOctet? cs = some a ↔ SpellsOctets 4 '.' DecimalOctet cs a.toNat
    rw [spellsOctets_iff hcount]
    exact readOctets?_eq_some_iff (fun _ _ => readDecimalOctet?_eq_some_iff) hdot (by decide)
  | mac =>
    have hcolon : ∀ cs o, HexOctet cs o → ':' ∉ cs := by
      intro cs o ho hc
      obtain ⟨n, hn⟩ := ho.exists_hexDigit hc
      exact hn.ne_colon rfl
    have hcount : 6 = AddressKind.mac.width / 8 := rfl
    show readOctets? 6 ':' readHexOctet? cs = some a ↔ SpellsOctets 6 ':' HexOctet cs a.toNat
    rw [spellsOctets_iff hcount]
    exact readOctets?_eq_some_iff (fun _ _ => readHexOctet?_eq_some_iff) hcolon (by decide)
  | port =>
    constructor
    · intro h
      obtain ⟨n, hn, h⟩ := Option.bind_eq_some_iff.1 h
      split at h
      · rename_i hfits
        cases h
        have hdigits : Text.Denotes cs n := Text.readDigits?_eq_some_iff.1 hn
        have hbound : n < 65536 := hfits
        have hvalue : (ofNat n : Port).toNat = n := by
          rw [toNat_ofNat]
          exact Nat.mod_eq_of_lt hbound
        exact ⟨by rwa [hvalue], by omega⟩
      · cases h
    · rintro ⟨hdigits, hbound⟩
      have hread : Text.readDigits? cs = some a.toNat := Text.readDigits?_eq_some_iff.2 hdigits
      have hfits : a.toNat < UInt16.size := a.toNat_lt
      unfold read?
      dsimp only
      rw [hread, Option.bind_eq_bind, Option.bind_some, if_pos hfits, ofNat_toNat]

theorem SpellsOctets.isBlank_eq_false {count : Nat} {separator : Char}
    {Octet : List Char → UInt8 → Prop} {cs : List Char} {n : Nat}
    (h : SpellsOctets count separator Octet cs n) (hseparator : Text.isBlank separator = false)
    (hoctet : ∀ cs o, Octet cs o → ∀ c ∈ cs, Text.isBlank c = false) :
    ∀ c ∈ cs, Text.isBlank c = false := by
  obtain ⟨fields, os, rfl, hfields, -, -⟩ := h
  intro c hc
  rcases mem_intercalate hc with hc | ⟨field, hfield, hc⟩
  · obtain rfl := List.mem_singleton.1 hc
    exact hseparator
  · obtain ⟨o, -, ho⟩ := exists_right_of_forall₂ hfields hfield
    exact hoctet field o ho c hc

theorem Spells.isBlank_eq_false {cs : List Char} {n : Nat} (h : Spells k cs n) :
    ∀ c ∈ cs, Text.isBlank c = false := by
  cases k with
  | ipv4 =>
    refine SpellsOctets.isBlank_eq_false h rfl ?_
    exact fun _ _ ho _ hc => Text.isBlank_of_isDigit (ho.isDigit hc)
  | mac =>
    refine SpellsOctets.isBlank_eq_false h rfl ?_
    intro _ _ ho _ hc
    obtain ⟨m, hm⟩ := ho.exists_hexDigit hc
    exact hm.isBlank_eq_false
  | port => exact fun c hc => Text.isBlank_of_isDigit (h.1.isDigit hc)

theorem SpellsOctets.lt_size {count : Nat} {separator : Char} {Octet : List Char → UInt8 → Prop}
    {cs : List Char} {n : Nat} (h : SpellsOctets count separator Octet cs n)
    (hcount : count = k.width / 8) : n < k.size := by
  obtain ⟨fields, os, -, -, hlength, rfl⟩ := h
  have hlt : Octets.toNat os < Nat.pow 256 os.length := Octets.toNat_lt os
  rwa [hlength, hcount, ← size_eq_pow, Octets.toNat_eq_ofDigits] at hlt

/-- A text of the grammar stands for an address: its number is not cut. -/
theorem Spells.lt_size {cs : List Char} {n : Nat} (h : Spells k cs n) : n < k.size := by
  cases k with
  | ipv4 => exact SpellsOctets.lt_size h rfl
  | mac => exact SpellsOctets.lt_size h rfl
  | port => exact Nat.lt_succ_of_le h.2

theorem IsTextOf.exists_toNat {s : String} {n : Nat} (h : IsTextOf k s n) :
    ∃ a : Address k, a.toNat = n := by
  obtain ⟨core, hcore, -⟩ := h
  have hnumber : (ofNat n : Address k).toNat = n := by
    rw [toNat_ofNat, Nat.mod_eq_of_lt hcore.lt_size]
  exact ⟨ofNat n, hnumber⟩

theorem parse_eq_ok_iff_read? {s : String} {a : Address k} :
    parse s = .ok a ↔ read? (Text.trim s.toList) = some a := by
  unfold parse
  cases read? (Text.trim s.toList) with
  | none => exact iff_of_false (fun h => nomatch h) fun h => nomatch h
  | some b => exact ⟨fun h => congrArg some (Except.ok.inj h), fun h => by rw [Option.some.inj h]⟩

theorem parse_eq_ok_iff {s : String} {a : Address k} :
    parse s = .ok a ↔ IsTextOf k s a.toNat := by
  rw [parse_eq_ok_iff_read?, read?_eq_some_iff]
  constructor
  · exact fun h => ⟨_, h, Text.surrounded_trim s.toList⟩
  · rintro ⟨core, hcore, hsurrounded⟩
    rwa [Text.trim_of_surrounded hcore.isBlank_eq_false hsurrounded]

/-- The text of a MAC address in any spelling: six octets in hexadecimal between colons, with blanks
around them. -/
def IsMacText (s : String) (a : Mac) : Prop :=
  ∃ fields os, Surrounded (List.intercalate [':'] fields) s.toList ∧
    List.Forall₂ HexOctet fields os ∧ os.length = 6 ∧ a = ofOctets os

theorem isMacText_iff {s : String} {a : Mac} : IsMacText s a ↔ IsTextOf .mac s a.toNat := by
  have hcount : 6 = AddressKind.mac.width / 8 := rfl
  have hspells (core : List Char) : Spells .mac core a.toNat ↔ ∃ fields os,
      core = List.intercalate [':'] fields ∧ List.Forall₂ HexOctet fields os ∧ os.length = 6 ∧
        a = ofOctets os := spellsOctets_iff hcount
  constructor
  · rintro ⟨fields, os, hsurrounded, hfields, hlength, ha⟩
    exact ⟨_, (hspells _).2 ⟨fields, os, rfl, hfields, hlength, ha⟩, hsurrounded⟩
  · rintro ⟨core, hcore, hsurrounded⟩
    obtain ⟨fields, os, rfl, hfields, hlength, ha⟩ := (hspells core).1 hcore
    exact ⟨fields, os, hsurrounded, hfields, hlength, ha⟩

theorem parse_mac_eq_ok_iff {s : String} {a : Mac} : parse s = .ok a ↔ IsMacText s a :=
  parse_eq_ok_iff.trans isMacText_iff.symm

/-- To trim a text first makes no difference. -/
theorem parse_trim_eq_ok_iff {s : String} {a : Mac} :
    parse (String.ofList (Text.trim s.toList)) = .ok a ↔ IsMacText s a := by
  rw [parse_eq_ok_iff_read?, String.toList_ofList, Text.trim_trim, ← parse_eq_ok_iff_read?,
    parse_mac_eq_ok_iff]

/-- A text that is no address is reported as it is. -/
theorem parse_eq_error {s : String} (h : ∀ a : Address k, parse s ≠ .ok a) :
    parse (k := k) s = .error (.address k s) := by
  unfold parse at h ⊢
  cases hread : read? (k := k) (Text.trim s.toList) with
  | none => rfl
  | some a =>
    rw [hread] at h
    exact absurd rfl (h a)

theorem parse_eq_error_iff {s : String} {e : FormatError} :
    parse (k := k) s = .error e ↔ (∀ n, ¬IsTextOf k s n) ∧ e = .address k s := by
  constructor
  · intro h
    have hnone : ∀ a : Address k, parse s ≠ .ok a := by
      intro a ha
      rw [h] at ha
      cases ha
    have herror := parse_eq_error hnone
    rw [h] at herror
    refine ⟨?_, Except.error.inj herror⟩
    intro n hn
    obtain ⟨a, rfl⟩ := hn.exists_toNat
    exact hnone a (parse_eq_ok_iff.2 hn)
  · rintro ⟨hnone, rfl⟩
    exact parse_eq_error fun a ha => hnone a.toNat (parse_eq_ok_iff.1 ha)

/-- A text is accepted exactly when it follows the grammar of its kind, blanks around it aside, and
then it gives the address of the number that it spells. For each other text the error names the kind
and keeps the whole text. -/
theorem parse_accepts (k : AddressKind) (s : String) :
    (∀ a : Address k, parse s = .ok a ↔ IsTextOf k s a.toNat) ∧
      ∀ e, parse (k := k) s = .error e ↔ (∀ n, ¬IsTextOf k s n) ∧ e = .address k s :=
  ⟨fun _ => parse_eq_ok_iff, fun _ => parse_eq_error_iff⟩

/-- Zeros in front, up to three digits in a field, and a blank that is not ASCII. -/
example : parse (k := .ipv4) "\u2003001.2.030.255\n" = .ok (ofNat 0x01021EFF) := by decide +kernel

end Address
end LoadBench
