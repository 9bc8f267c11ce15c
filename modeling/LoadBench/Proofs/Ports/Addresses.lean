import LoadBench.Control.Service
import LoadBench.Proofs.Address.Grammar
import LoadBench.Proofs.Ports.Dialogue
import LoadBench.Proofs.Text.Utf8

/-!
The addresses of the generator's ports, from a TRex server or from address files.

Main statement: a list with an address in it has one for each configured port, in order, and comes
out exactly when nothing fails on the way to any of them.
-/
namespace LoadBench

open Address (HexOctet IsMacText)
open Text (Surrounded)

/-- An entry is the canonical form of the address in a text: the same six octets, each with two
digits in lower case. -/
def IsEntry (text entry : String) : Prop :=
  ∃ fields os, Surrounded (List.intercalate [':'] fields) text.toList ∧
    List.Forall₂ HexOctet fields os ∧ os.length = 6 ∧
    entry.toList = List.intercalate [':'] (os.map fun o =>
      [Nat.digitChar (o.toNat / 16), Nat.digitChar (o.toNat % 16)])

/-- One entry for each port, in order, from the text that is found for the port. -/
def AreEntries {σ : Type} (found : σ → String → Prop) (ports : List σ) (entries : List String) :
    Prop :=
  List.Forall₂ (fun port entry => ∃ text, found port text ∧ IsEntry text entry) ports entries

theorem isEntry_iff {text entry : String} :
    IsEntry text entry ↔ ∃ mac, IsMacText text mac ∧ mac.text = entry := by
  have htext {os : List UInt8} (hlength : os.length = 6) :
      (Address.ofOctets os : Mac).text.toList = List.intercalate [':'] (os.map fun o =>
        [Nat.digitChar (o.toNat / 16), Nat.digitChar (o.toNat % 16)]) := by
    have hoctets : (Address.ofOctets os : Mac).octets = os := Address.octets_ofOctets hlength
    rw [Address.text, String.toList_ofList, Address.chars, hoctets]
    rfl
  constructor
  · rintro ⟨fields, os, hsurrounded, hfields, hlength, hentry⟩
    refine ⟨_, ⟨fields, os, hsurrounded, hfields, hlength, rfl⟩, ?_⟩
    rw [← String.toList_inj, htext hlength, hentry]
  · rintro ⟨_, ⟨fields, os, hsurrounded, hfields, hlength, rfl⟩, rfl⟩
    exact ⟨fields, os, hsurrounded, hfields, hlength, htext hlength⟩

theorem areEntries_iff {σ : Type} {read : σ → Except PortQueryError Mac}
    {found : σ → String → Prop}
    (h : ∀ port mac, read port = .ok mac ↔ ∃ text, found port text ∧ IsMacText text mac)
    {ports : List σ} {entries : List String} :
    AreEntries found ports entries ↔
      ∃ macs, ports.mapM read = .ok macs ∧ macs.map Address.text = entries := by
  have hentry : ∀ port entry, (∃ text, found port text ∧ IsEntry text entry) ↔
      ∃ mac, read port = .ok mac ∧ mac.text = entry := by
    intro port entry
    simp only [isEntry_iff]
    constructor
    · rintro ⟨text, hfound, mac, hmac, hentry⟩
      exact ⟨mac, (h port mac).2 ⟨text, hfound, hmac⟩, hentry⟩
    · rintro ⟨mac, hread, hentry⟩
      obtain ⟨text, hfound, hmac⟩ := (h port mac).1 hread
      exact ⟨text, hfound, mac, hmac, hentry⟩
  rw [AreEntries, exists_mapM_map_iff]
  simp only [hentry]

namespace Trex

open Json (Value)

/-- A port of a report: its index and the text of its address. -/
def IsPort (v : Value) (p : PortInfo) : Prop :=
  v.HasMembers [("index", .int p.index.toNat), ("hw_macaddr", .text p.mac)]

/-- The result of the second call has these ports, and no other, under `ports`. -/
def ListsPorts (info : Value) (ports : List PortInfo) : Prop :=
  ∃ items, info.HasMembers [("ports", .list items)] ∧ List.Forall₂ IsPort items ports

/-- What a peer sends that comes to a list of ports: a handshake, a reply with a handle, and a reply
with the list. -/
inductive Reports (incoming : List UInt8) (ports : List PortInfo) : Prop
  | intro {handle : String} {input body rest : List UInt8} {info : Value}
      (asked : Reaches incoming (.info handle) input) (replies : Replies input body rest)
      (accepts : Accepts body info) (lists : ListsPorts info ports)

/-- The text of the first port in a list that has the index. -/
def IsFirst (ports : List PortInfo) (index : UInt32) (text : String) : Prop :=
  ∃ before after, ports = before ++ ⟨index, text⟩ :: after ∧ ∀ p ∈ before, p.index ≠ index

theorem find?_eq_some_iff {ports : List PortInfo} {index : UInt32} {p : PortInfo} :
    (ports.find? fun q => q.index == index) = some p ↔
      p.index = index ∧ IsFirst ports index p.mac := by
  rw [List.find?_eq_some_iff_append, IsFirst]
  constructor
  · rintro ⟨hp, before, after, rfl, hbefore⟩
    obtain rfl : p.index = index := by simpa using hp
    exact ⟨rfl, before, after, rfl, by simpa using hbefore⟩
  · rintro ⟨rfl, before, after, hports, hbefore⟩
    exact ⟨by simp, before, after, hports, by simpa using hbefore⟩

theorem macOf_eq_ok_iff {ports : List PortInfo} (index : UInt32) (mac : Mac) :
    macOf ports index = .ok mac ↔ ∃ text, IsFirst ports index text ∧ IsMacText text mac := by
  unfold macOf
  constructor
  · intro h
    split at h
    · cases h
    · rename_i p hp
      have hmac := Address.parse_trim_eq_ok_iff.1 (mapError_eq_ok_iff.1 h)
      exact ⟨p.mac, (find?_eq_some_iff.1 hp).2, hmac⟩
  · rintro ⟨text, htext, hmac⟩
    have hfind : (ports.find? fun q => q.index == index) = some ⟨index, text⟩ :=
      find?_eq_some_iff.2 ⟨rfl, htext⟩
    rw [hfind]
    exact mapError_eq_ok_iff.2 (Address.parse_trim_eq_ok_iff.2 hmac)

theorem ofValue?_eq_some_iff {v : Value} {p : PortInfo} :
    PortInfo.ofValue? v = some p ↔ IsPort v p := by
  rw [IsPort, Value.hasMembers_iff (by simp)]
  simp only [List.map_cons, List.map_nil, List.forall_mem_cons, List.not_mem_nil, false_implies,
    implies_true, and_true]
  unfold PortInfo.ofValue?
  constructor
  · intro h
    obtain ⟨field, hfield, h⟩ := Option.bind_eq_some_iff.1 h
    obtain ⟨number, hnumber, h⟩ := Option.bind_eq_some_iff.1 h
    obtain ⟨index, hindex, h⟩ := Option.bind_eq_some_iff.1 h
    obtain ⟨text, htext, h⟩ := Option.bind_eq_some_iff.1 h
    obtain ⟨mac, hmac, h⟩ := Option.bind_eq_some_iff.1 h
    cases h
    rw [Value.uint32?_eq_some_iff.1 hindex] at hnumber
    rw [Value.text?_eq_some_iff.1 hmac] at htext
    exact ⟨field, hfield, hnumber, htext⟩
  · rintro ⟨field, hfield, hindex, hmac⟩
    have hnumber : (Value.int p.index.toNat).uint32? = some p.index :=
      Value.uint32?_eq_some_iff.2 rfl
    rw [hfield, Option.bind_eq_bind, Option.bind_some, hindex, Option.bind_eq_bind,
      Option.bind_some, hnumber, Option.bind_eq_bind, Option.bind_some, hmac]
    rfl

theorem portsOf_eq_ok_iff {info : Value} {ports : List PortInfo} :
    portsOf info = .ok ports ↔ ListsPorts info ports := by
  have hmember (items : List Value) : info.HasMembers [("ports", .list items)] ↔
      ∃ field, info.record? ["ports"] = some field ∧ field "ports" = some (.list items) := by
    rw [Value.hasMembers_iff (by simp)]
    simp only [List.map_cons, List.map_nil, List.forall_mem_singleton]
  have hitems (items : List Value) : List.Forall₂ IsPort items ports ↔
      items.mapM PortInfo.ofValue? = some ports := by
    simp only [mapM_eq_some_iff, ofValue?_eq_some_iff]
  simp only [ListsPorts, hmember, hitems]
  rw [portsOf, elim_eq_ok_iff]
  constructor
  · intro h
    obtain ⟨field, hfield, h⟩ := Option.bind_eq_some_iff.1 h
    obtain ⟨v, hv, h⟩ := Option.bind_eq_some_iff.1 h
    split at h
    · exact ⟨_, ⟨field, hfield, hv⟩, h⟩
    · cases h
  · rintro ⟨items, ⟨field, hfield, hv⟩, hports⟩
    rw [hfield, Option.bind_eq_bind, Option.bind_some, hv]
    exact hports

/-- Ports are looked for only in a list that the server has reported. -/
theorem dialogue_eq_ok_iff {indices : List UInt32} {incoming : List UInt8} {macs : List Mac} :
    (dialogue indices ⟨incoming, []⟩).1 = .ok macs ↔
      ∃ ports, Reports incoming ports ∧ indices.mapM (macOf ports) = .ok macs := by
  constructor
  · intro h
    obtain ⟨last, ⟨⟨rest, hlast⟩, -⟩, -, ⟨handle, rfl⟩ | ⟨e, he⟩⟩ := exists_last indices incoming
    · rw [dialogue_of_synced indices hlast] at h
      obtain ⟨ports, hports, hmacs⟩ := bind_eq_ok h
      obtain ⟨info, hinfo, hlists⟩ := bind_eq_ok hports
      obtain ⟨body, hreplies, haccepts⟩ := accepts_of_call hinfo
      exact ⟨ports, ⟨hlast, hreplies, haccepts, portsOf_eq_ok_iff.1 hlists⟩, hmacs⟩
    · rw [he] at h
      cases h
  · rintro ⟨ports, ⟨asked, replies, accepts, lists⟩, hmacs⟩
    rw [dialogue_of_synced indices asked, call_of_replies replies, resultOf_eq_ok_iff.2 accepts]
    dsimp only
    rw [Except.bind, portsOf_eq_ok_iff.2 lists, Except.bind, hmacs]

theorem portMacs_eq_ok_iff {indices : List UInt32} {peer : Option (List UInt8)}
    {macs : List Mac} :
    (portMacs indices peer).1 = .ok macs ↔ indices ≠ [] ∧ ∃ incoming ports,
      peer = some incoming ∧ Reports incoming ports ∧
      indices.mapM (macOf ports) = .ok macs := by
  unfold portMacs
  cases indices with
  | nil => simp
  | cons index indices =>
    cases peer with
    | none => simp
    | some incoming => simp [dialogue_eq_ok_iff]

end Trex

/-! ### Files and their paths -/

/-- A path that begins with a separator. -/
def IsAbsolute (path : String) : Prop := ∃ rest, path = "/" ++ rest

/-- A directory behind which an entry needs no separator. -/
def IsClosed (dir : String) : Prop := dir = "" ∨ ∃ front, dir = front ++ "/"

/-- The path of an entry below a directory. An absolute entry is a path of its own. -/
inductive Joins (dir entry : String) : String → Prop
  | absolute (absolute : IsAbsolute entry) : Joins dir entry entry
  | closed (relative : ¬IsAbsolute entry) (closed : IsClosed dir) : Joins dir entry (dir ++ entry)
  | below (relative : ¬IsAbsolute entry) (unclosed : ¬IsClosed dir) :
      Joins dir entry (dir ++ "/" ++ entry)

theorem isAbsolute_iff {path : String} : IsAbsolute path ↔ ['/'] <+: path.toList := by
  constructor
  · rintro ⟨rest, rfl⟩
    exact ⟨rest.toList, by simp⟩
  · rintro ⟨rest, hrest⟩
    exact ⟨String.ofList rest, by simp [← String.toList_inj, ← hrest]⟩

theorem isClosed_iff {dir : String} : IsClosed dir ↔ dir.toList = [] ∨ ['/'] <:+ dir.toList := by
  rw [IsClosed, String.toList_eq_nil_iff]
  refine or_congr_right ⟨?_, ?_⟩
  · rintro ⟨front, rfl⟩
    exact ⟨front.toList, by simp⟩
  · rintro ⟨front, hfront⟩
    exact ⟨String.ofList front, by simp [← String.toList_inj, ← hfront]⟩

instance (path : String) : Decidable (IsAbsolute path) := decidable_of_iff _ isAbsolute_iff.symm

instance (dir : String) : Decidable (IsClosed dir) := decidable_of_iff _ isClosed_iff.symm

/-- What stands in front of an entry does not close it. -/
theorem not_isClosed_append {entry : String} (h : ¬IsClosed entry) (front : String) :
    ¬IsClosed (front ++ entry) := by
  rw [isClosed_iff, not_or] at h ⊢
  obtain ⟨hnonempty, hunclosed⟩ := h
  rw [String.toList_append]
  refine ⟨fun hempty => hnonempty (List.append_eq_nil_iff.1 hempty).2, fun hsuffix => ?_⟩
  have hlength : ['/'].length ≤ entry.toList.length := List.length_pos_iff.2 hnonempty
  exact hunclosed (List.suffix_of_suffix_length_le hsuffix (List.suffix_append _ _) hlength)

theorem joinPath_eq (dir entry : String) : joinPath dir entry =
    if IsAbsolute entry then entry
    else if IsClosed dir then dir ++ entry
    else dir ++ "/" ++ entry := by
  have hentry : entry.startsWith "/" = true ↔ IsAbsolute entry := by
    rw [isAbsolute_iff, String.startsWith_string_iff]
    rfl
  have hdir : (dir.isEmpty || dir.endsWith "/") = true ↔ IsClosed dir := by
    rw [isClosed_iff, Bool.or_eq_true, String.isEmpty_iff, String.toList_eq_nil_iff,
      ← String.endsWith_toSlice, String.Slice.endsWith_string_iff, String.copy_toSlice]
    rfl
  simp only [joinPath, hentry, hdir]

theorem joins_iff {dir entry path : String} : Joins dir entry path ↔ joinPath dir entry = path := by
  rw [joinPath_eq]
  constructor
  · rintro (absolute | ⟨relative, closed⟩ | ⟨relative, unclosed⟩)
    · rw [if_pos absolute]
    · rw [if_neg relative, if_pos closed]
    · rw [if_neg relative, if_neg unclosed]
  · rintro rfl
    split_ifs with absolute closed
    · exact .absolute absolute
    · exact .closed absolute closed
    · exact .below absolute closed

theorem File.text_eq_ok_iff {file : File} {text : String} :
    file.text = .ok text ↔ file = .octets (Utf8.encode text) := by
  cases file with
  | octets content =>
    rw [File.octets.injEq, eq_comm (a := content), ← Utf8.decode?_eq_some_iff, File.text]
    cases Utf8.decode? content with
    | none => simp
    | some s => simp
  | _ => simp [File.text]

namespace Sysfs

/-- The path of an interface's address file: the entry `address` below the interface. -/
def IsAddressFile (root interface path : String) : Prop :=
  ∃ dir, Joins root interface dir ∧ Joins dir "address" path

/-- The text of an interface's address file. -/
def IsContent (fileAt : String → File) (root interface text : String) : Prop :=
  ∃ path, IsAddressFile root interface path ∧ fileAt path = .octets (Utf8.encode text)

theorem isAddressFile_iff {root interface path : String} :
    IsAddressFile root interface path ↔ addressPath root interface = path := by
  simp only [IsAddressFile, joins_iff, exists_eq_left', addressPath]

/-- For an ordinary root and the plain name of an interface this is `root/interface/address`. -/
theorem isAddressFile_iff_of_relative {root interface path : String} (hroot : ¬IsClosed root)
    (hrelative : ¬IsAbsolute interface) (hinterface : ¬IsClosed interface) :
    IsAddressFile root interface path ↔ path = root ++ "/" ++ interface ++ "/address" := by
  have hunclosed : ¬IsClosed (root ++ "/" ++ interface) := not_isClosed_append hinterface _
  have hname : ¬IsAbsolute "address" := by decide
  have hfile : IsAddressFile root interface (root ++ "/" ++ interface ++ "/" ++ "address") :=
    ⟨_, .below hrelative hroot, .below hname hunclosed⟩
  rw [isAddressFile_iff] at hfile ⊢
  rw [hfile, String.append_assoc, eq_comm]
  rfl

theorem isContent_iff {fileAt : String → File} {root interface text : String} :
    IsContent fileAt root interface text ↔
      (fileAt (addressPath root interface)).text = .ok text := by
  simp only [IsContent, isAddressFile_iff, exists_eq_left', File.text_eq_ok_iff]

theorem readAddress_eq_ok_iff {fileAt : String → File} {root : String} (interface : String)
    (mac : Mac) :
    readAddress (addressPath root interface) (fileAt (addressPath root interface)) = .ok mac ↔
      ∃ text, IsContent fileAt root interface text ∧ IsMacText text mac := by
  simp only [isContent_iff]
  unfold readAddress
  constructor
  · intro h
    split at h
    · cases h
    · rename_i text htext
      exact ⟨text, htext, Address.parse_trim_eq_ok_iff.1 (mapError_eq_ok_iff.1 h)⟩
  · rintro ⟨text, htext, hmac⟩
    rw [htext]
    exact mapError_eq_ok_iff.2 (Address.parse_trim_eq_ok_iff.2 hmac)

theorem portMacs_eq_ok_iff {fileAt : String → File} {root : String} {interfaces : List String}
    {macs : List Mac} :
    portMacs fileAt root interfaces = .ok macs ↔ interfaces ≠ [] ∧
      interfaces.mapM (fun interface =>
        readAddress (addressPath root interface) (fileAt (addressPath root interface))) =
          .ok macs := by
  unfold portMacs
  cases interfaces with
  | nil => simp
  | cons interface interfaces => simp

end Sysfs

/-- Ports are configured, all that the source has to tell is there, and these are the entries. -/
def PortSource.Tells (site : Site) (entries : List String) : PortSource → Prop
  | .trex indices => indices ≠ [] ∧ ∃ incoming later ports, site.trexPeers = incoming :: later ∧
      Trex.Reports incoming ports ∧ AreEntries (Trex.IsFirst ports) indices entries
  | .sysfs root interfaces => interfaces ≠ [] ∧
      AreEntries (Sysfs.IsContent site.addressFile root) interfaces entries

theorem PortSource.tells_iff {source : PortSource} {site : Site} {entries : List String} :
    source.Tells site entries ↔
      ∃ macs, (source.query site).1 = .ok macs ∧ macs.map Address.text = entries := by
  cases source with
  | trex indices =>
    have hquery : ((PortSource.trex indices).query site).1 =
        (Trex.portMacs indices site.trexPeers.head?).1 := rfl
    simp only [Tells, hquery, Trex.portMacs_eq_ok_iff, areEntries_iff Trex.macOf_eq_ok_iff,
      List.head?_eq_some_iff]
    constructor
    · rintro ⟨hconfigured, incoming, later, ports, hpeer, hreports, macs, hmacs, htexts⟩
      exact ⟨macs, ⟨hconfigured, incoming, ports, ⟨later, hpeer⟩, hreports, hmacs⟩, htexts⟩
    · rintro ⟨macs, ⟨hconfigured, incoming, ports, ⟨later, hpeer⟩, hreports, hmacs⟩, htexts⟩
      exact ⟨hconfigured, incoming, later, ports, hpeer, hreports, macs, hmacs, htexts⟩
  | sysfs root interfaces =>
    have hquery : ((PortSource.sysfs root interfaces).query site).1 =
        Sysfs.portMacs site.addressFile root interfaces := rfl
    simp only [Tells, hquery, Sysfs.portMacs_eq_ok_iff,
      areEntries_iff Sysfs.readAddress_eq_ok_iff, and_assoc, exists_and_left]

namespace Service

/-- A list with an address in it comes out exactly when every lookup succeeds, and then it has
these entries. In every other case the list is empty. -/
theorem getMacList_eq_cons_iff (s : Service) (site : Site) (entry : String)
    (entries : List String) :
    (s.getMacList site).1 = entry :: entries ↔ s.ports.Tells site (entry :: entries) := by
  rw [PortSource.tells_iff, getMacList]
  dsimp only
  cases (s.ports.query site).1 with
  | error e => simp [Except.toOption]
  | ok macs => simp [Except.toOption]

/-- A TRex server with two reports of one port, the first of them with a blank in front. -/
def reportingPeer : List UInt8 :=
  let port (index : Nat) (mac : String) : Json.Tree :=
    .record [("index", .ofNat index), ("hw_macaddr", .ofText mac)]
  Zmtp.greeting ++ Zmtp.Frame.encode Zmtp.commandFlag (Zmtp.readyBody (Utf8.encode "REP")) ++
    Trex.messageOf (.record [("result", .record [("api_h", .ofText "handle")])]) ++
    Trex.messageOf (.record [("result", .record [("ports", .array [port 0 "3C:FD:FE:AA:00:01",
      port 1 " 3c:fd:fe:aa:00:02", port 1 "3c:fd:fe:aa:00:03"])])])

/-- Two interfaces with an address file each, and a TRex server. -/
def twoSources : Site where
  addressFile path :=
    if path = "/sys/class/net/eth1/address" then .octets (Utf8.encode "3C:FD:FE:AA:00:02\n")
    else if path = "/sys/class/net/eth0/address" then .octets (Utf8.encode "3c:fd:fe:aa:0:1\n")
    else .absent
  trexPeers := [reportingPeer]

/-- A service that asks for port addresses in this way. -/
def ofSource (ports : PortSource) : Service := ⟨⟨"search"⟩, ⟨"gen", "trex", []⟩, "", ports⟩

/-- Entries stand in the order of the configuration and are repeated with it. Each interface has a
file of its own, and the first report of an index counts. -/
theorem getMacList_twoSources :
    let files := PortSource.sysfs "/sys/class/net" ["eth1", "eth0"]
    let server := PortSource.trex [1, 0, 1]
    ((ofSource files).getMacList twoSources).1 = ["3c:fd:fe:aa:00:02", "3c:fd:fe:aa:00:01"] ∧
      ((ofSource server).getMacList twoSources).1 =
        ["3c:fd:fe:aa:00:02", "3c:fd:fe:aa:00:01", "3c:fd:fe:aa:00:02"] ∧
      server.Tells twoSources
        ["3c:fd:fe:aa:00:02", "3c:fd:fe:aa:00:01", "3c:fd:fe:aa:00:02"] := by
  intro files server
  have hcontent {interface text : String} (hrelative : ¬IsAbsolute interface)
      (hunclosed : ¬IsClosed interface)
      (hfile : twoSources.addressFile ("/sys/class/net" ++ "/" ++ interface ++ "/address") =
        .octets (Utf8.encode text)) :
      Sysfs.IsContent twoSources.addressFile "/sys/class/net" interface text :=
    ⟨_, (Sysfs.isAddressFile_iff_of_relative (by decide) hrelative hunclosed).2 rfl, hfile⟩
  have hentry {text entry : String} (mac : Mac) (hmac : Address.parse text = .ok mac)
      (htext : mac.text = entry) : IsEntry text entry :=
    isEntry_iff.2 ⟨mac, Address.parse_mac_eq_ok_iff.1 hmac, htext⟩
  have hfiles : files.Tells twoSources ["3c:fd:fe:aa:00:02", "3c:fd:fe:aa:00:01"] := by
    refine ⟨List.cons_ne_nil _ _, .cons ⟨"3C:FD:FE:AA:00:02\n", ?_, ?_⟩
      (.cons ⟨"3c:fd:fe:aa:0:1\n", ?_, ?_⟩ .nil)⟩
    · exact hcontent (by decide) (by decide) rfl
    · exact hentry (.ofNat 0x3CFDFEAA0002) (by decide +kernel) (by decide +kernel)
    · exact hcontent (by decide) (by decide) rfl
    · exact hentry (.ofNat 0x3CFDFEAA0001) (by decide +kernel) (by decide +kernel)
  have hserver : ((ofSource server).getMacList twoSources).1 =
      ["3c:fd:fe:aa:00:02", "3c:fd:fe:aa:00:01", "3c:fd:fe:aa:00:02"] := by
    decide +kernel
  exact ⟨(getMacList_eq_cons_iff (ofSource files) twoSources _ _).2 hfiles, hserver,
    (getMacList_eq_cons_iff (ofSource server) twoSources _ _).1 hserver⟩

end Service
end LoadBench
