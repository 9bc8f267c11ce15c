import LoadBench.Configuration
import LoadBench.Proofs.Json.Recognition
import LoadBench.Proofs.Json.Shuffled

/-!
Configurations in files.

Main statement: a configuration is loaded from its members in any order, without any of those that
the default has too, and what was loaded is loaded again from what is written for it.
-/
namespace LoadBench

open Json (Tree)

theorem MacSource.ofName?_name (m : MacSource) : ofName? m.name = some m := by
  cases m <;> decide

namespace Configuration

def members (c : Configuration) : List (String × Tree) :=
  [("bind", .ofText c.bind), ("port", .ofNat c.port.toNat),
    ("generator_dir", .ofText c.generatorDir), ("generator_program", .ofText c.generatorProgram),
    ("traffic_generator", .ofText c.trafficGenerator), ("process_name", .ofText c.processName),
    ("result_file", .ofText c.resultFile), ("extra_args", .array (c.extraArgs.map .ofText)),
    ("mac_source", .ofText c.macSource.name), ("trex_addr", .ofText c.trexAddr),
    ("trex_ports", .array (c.trexPorts.map (.ofNat ·.toNat))),
    ("port_interfaces", .array (c.portInterfaces.map .ofText)),
    ("sysfs_net_root", .ofText c.sysfsRoot)]

theorem json_eq_members (c : Configuration) : c.json = Tree.record c.members := rfl

theorem map_fst_members (c : Configuration) : c.members.map Prod.fst = fieldNames := rfl

theorem nodup_members (c : Configuration) : (c.members.map Prod.fst).Nodup := by
  rw [map_fst_members]
  decide

/-- The members of a configuration in any order, without some that the default has too. -/
inductive IsArrangement (c : Configuration) : Tree → Prop
  | intro {kept dropped : List (String × Tree)} (order : (kept ++ dropped).Perm c.members)
      (defaults : dropped ⊆ ({} : Configuration).members) : IsArrangement c (.record kept)

theorem isArrangement_json (c : Configuration) : c.IsArrangement c.json := by
  have order : (c.members ++ []).Perm c.members := .of_eq (List.append_nil _)
  rw [json_eq_members]
  exact .intro order (List.nil_subset _)

/-- The member of the name is read as the field, in every configuration. -/
def IsField {α : Type} (name : String) (get : Configuration → α) (read : Tree → Option α) : Prop :=
  ∀ c : Configuration, ∃ t, (name, t) ∈ c.members ∧ read t = some (get c)

theorem isField_text (name : String) (get : Configuration → String)
    (h : ∀ c : Configuration, (name, Tree.ofText (get c)) ∈ c.members) :
    IsField name get Tree.text? :=
  fun c => ⟨_, h c, Tree.text?_ofText _⟩

theorem isField_texts (name : String) (get : Configuration → List String)
    (h : ∀ c : Configuration, (name, Tree.array ((get c).map .ofText)) ∈ c.members) :
    IsField name get (Tree.list? Tree.text?) :=
  fun c => ⟨_, h c, Tree.list?_array fun s _ => Tree.text?_ofText s⟩

theorem isField_port : IsField "port" port Tree.uint16? :=
  fun c => ⟨_, by simp [members], Tree.uint16?_ofNat c.port⟩

theorem isField_macSource :
    IsField "mac_source" macSource fun t => t.variant?.bind MacSource.ofName? := by
  intro c
  refine ⟨.ofText c.macSource.name, by simp [members], ?_⟩
  dsimp only
  rw [Tree.variant?_ofText, Option.bind_some, MacSource.ofName?_name]

theorem isField_trexPorts : IsField "trex_ports" trexPorts (Tree.list? Tree.uint32?) :=
  fun c => ⟨_, by simp [members], Tree.list?_array fun n _ => Tree.uint32?_ofNat n⟩

section
variable {c : Configuration} {t : Tree}

theorem IsArrangement.written (h : c.IsArrangement t) : t.Written := by
  obtain ⟨order, -⟩ := h
  have hmembers : ∀ m ∈ c.members, m.2.Written := by
    simp [members, Tree.written_ofText, Tree.written_ofNat, Tree.written_map]
  exact Tree.written_record fun m hm => hmembers m (order.subset (List.mem_append_left _ hm))

theorem IsArrangement.ofJson? (h : c.IsArrangement t) : Configuration.ofJson? t = some c := by
  obtain @⟨kept, dropped, order, defaults⟩ := h
  have hrecord := Tree.record?_kept order c.nodup_members
  rw [map_fst_members] at hrecord
  have field : ∀ {α : Type} {name : String} {get : Configuration → α} {read : Tree → Option α},
      IsField name get read → (kept.lookup name).elim (some (get {})) read = some (get c) := by
    intro α name get read hfield
    obtain ⟨t, hmem, hread⟩ := hfield c
    obtain ⟨t₀, hmem₀, hread₀⟩ := hfield {}
    exact Tree.elim_lookup_of_defaults order c.nodup_members (nodup_members _) defaults hmem hmem₀
      hread hread₀
  unfold Configuration.ofJson?
  rw [hrecord]
  dsimp only [Option.bind_eq_bind, Option.bind_some]
  rw [field (isField_text "bind" bind (by simp [members])), field isField_port,
    field (isField_text "generator_dir" generatorDir (by simp [members])),
    field (isField_text "generator_program" generatorProgram (by simp [members])),
    field (isField_text "traffic_generator" trafficGenerator (by simp [members])),
    field (isField_text "process_name" processName (by simp [members])),
    field (isField_text "result_file" resultFile (by simp [members])),
    field (isField_texts "extra_args" extraArgs (by simp [members])), field isField_macSource,
    field (isField_text "trex_addr" trexAddr (by simp [members])), field isField_trexPorts,
    field (isField_texts "port_interfaces" portInterfaces (by simp [members])),
    field (isField_text "sysfs_net_root" sysfsRoot (by simp [members]))]
  rfl

/-- Every spelling of an arrangement, as the text of a file. -/
theorem IsArrangement.load (h : c.IsArrangement t) {octets : List UInt8} (text : Utf8.IsText octets)
    (spelled : t.Spelled octets) (path : String) : load path (.octets octets) = .ok c := by
  obtain ⟨s, rfl⟩ := text
  unfold Configuration.load File.text
  dsimp only
  rw [Utf8.decode?_encode]
  dsimp only
  rw [parse?, Tree.parse?_of_spelled spelled, Option.bind_some, h.ofJson?]
  rfl

end

/-- A configuration is loaded from all its arrangements, in every spelling, and what is written for it
is one of them. Loading, writing and loading again gives what the first load gave. -/
theorem load_arrangement :
    (∀ (c : Configuration) (t : Tree), c.IsArrangement t → ∀ path,
      load path (.octets t.print) = .ok c ∧
        ∀ s : String, t.Spelled (Utf8.encode s) → load path (.octets (Utf8.encode s)) = .ok c) ∧
      (∀ c : Configuration, c.IsArrangement c.json) ∧
      ∀ path path' file,
        (load path file >>= fun c => load path' (.octets c.json.print)) = load path file := by
  have printed : ∀ (c : Configuration) (t : Tree), c.IsArrangement t → ∀ path,
      load path (.octets t.print) = .ok c := fun c t h path =>
    h.load h.written.isText h.written.spelled path
  refine ⟨fun c t h path => ⟨printed c t h path, fun s hs => h.load ⟨s, rfl⟩ hs path⟩,
    isArrangement_json, fun path path' file => ?_⟩
  cases hload : load path file with
  | error e => rfl
  | ok c => exact printed c c.json c.isArrangement_json path'

/-- Three members against their order, and the defaults for all others. -/
theorem load_arrangement_partial :
    let c : Configuration :=
      { port := 6000, generatorDir := "/opt/bench", portInterfaces := ["ens1f0"] }
    let t := Tree.record [("port_interfaces", .array [.ofText "ens1f0"]),
      ("generator_dir", .ofText "/opt/bench"), ("port", .ofNat 6000)]
    c.IsArrangement t ∧ load "server.json" (.octets t.print) = .ok c := by
  intro c t
  let interfaces : String × Tree := ("port_interfaces", .array [.ofText "ens1f0"])
  let dir : String × Tree := ("generator_dir", .ofText "/opt/bench")
  let port : String × Tree := ("port", .ofNat 6000)
  let front := c.members.take 1
  let middle := (c.members.drop 3).take 8
  let back := c.members.drop 12
  have hfront : ([dir, port] ++ front).Perm (c.members.take 3) :=
    List.reverse_perm (front ++ [port, dir])
  have hinterfaces : (interfaces :: ([dir, port] ++ front ++ middle ++ back)).Perm
      ([dir, port] ++ front ++ middle ++ interfaces :: back) := List.perm_middle.symm
  have order : ([interfaces, dir, port] ++ (front ++ middle ++ back)).Perm c.members :=
    hinterfaces.trans ((hfront.append_right middle).append_right (interfaces :: back))
  have defaults : front ++ middle ++ back ⊆ ({} : Configuration).members := by
    simp [front, middle, back, c, members]
  have harrangement : c.IsArrangement t := .intro order defaults
  exact ⟨harrangement, (load_arrangement.1 c t harrangement "server.json").1⟩

end Configuration
end LoadBench
