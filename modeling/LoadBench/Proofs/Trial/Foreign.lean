import LoadBench.Proofs.Json.Recognition
import LoadBench.Proofs.Json.Record
import LoadBench.Proofs.Json.Surrogates
import LoadBench.Proofs.Trial.Agreement
import LoadBench.Proofs.Trial.Truncation

/-!
Members of an artifact that no reader asks for.

Main statement: put into the object of the artifact or of one of its trials, at whatever position
and with whatever value JSON has, such a member changes no answer, as long as the surrogates in its
name come in pairs.
-/
namespace LoadBench

open Json (IsBlank Literal MemberText Tree arrayText ascii bracketed bracketed_append_cons
  forall_mem_append_cons isBlank_nil isSome_text?_iff_of_names isText_bracketed_iff
  isText_memberText_iff isText_padded_iff literal memberText names_literal objectText
  objectText_append_cons paired_literal quoted)
open Utf8 (IsText)

namespace Artifact

/-- The places of an artifact on the way to its objects. -/
inductive Place
  | artifact
  | trials
  | trial

namespace Place

/-- The fields of the record that stands at a place. The trials are a list. -/
def fields? : Place → Option (List String)
  | .artifact => some ["trials"]
  | .trials => none
  | .trial => some ["result", "stats"]

def Contents : Place → Type
  | .artifact => Artifact
  | .trials => List Trial
  | .trial => Trial

def read? : (p : Place) → Tree → Option p.Contents
  | .artifact => Artifact.ofJson?
  | .trials => Tree.list? Trial.ofJson?
  | .trial => Trial.ofJson?

end Place

/-- The second text is the first one with one member more in one of its records. The member is
foreign there, and has the name `key` and any value of any spelling. -/
inductive Enlarged (key : Literal) : Place → List UInt8 → List UInt8 → Prop
  | member {p : Place} {names : List String} {blank : List UInt8} {before after : List MemberText}
      {m : MemberText} (record : p.fields? = some names) (foreign : Tree.IsForeign names key)
      (isBlank : IsBlank blank) (others : ∀ o ∈ before ++ after, o.Spelled)
      (isKey : m.key = key) (spelled : m.Spelled) (text : IsText m.octets) :
      Enlarged key p (objectText blank (before ++ after))
        (objectText blank (before ++ m :: after))
  | trials {before after : List MemberText} {field : Literal} {name old new : List UInt8}
      (others : ∀ o ∈ before ++ after, o.Spelled) (names : field.Names name)
      (isField : Literal.text? field = some "trials") (value : Enlarged key .trials old new) :
      Enlarged key .artifact
        (bracketed '{' '}' []
          (before.map MemberText.octets ++ memberText name old :: after.map MemberText.octets))
        (bracketed '{' '}' []
          (before.map MemberText.octets ++ memberText name new :: after.map MemberText.octets))
  /-- A record may be written as an array of its fields. -/
  | tuple {old new : List UInt8} (value : Enlarged key .trials old new) :
      Enlarged key .artifact (arrayText [] [old]) (arrayText [] [new])
  | trial {before after : List (Tree × List UInt8)} {old new : List UInt8}
      (others : ∀ x ∈ before ++ after, x.1.Spelled x.2) (value : Enlarged key .trial old new) :
      Enlarged key .trials (arrayText [] (before.map Prod.snd ++ old :: after.map Prod.snd))
        (arrayText [] (before.map Prod.snd ++ new :: after.map Prod.snd))
  | padded {p : Place} {front back old new : List UInt8} (front_blank : IsBlank front)
      (value : Enlarged key p old new) (back_blank : IsBlank back) :
      Enlarged key p (front ++ old ++ back) (front ++ new ++ back)

variable {key : Literal}

/-- A record is read past a foreign member, if its name is a text. -/
theorem Place.read?_insert {p : Place} {names : List String} (record : p.fields? = some names)
    (foreign : Tree.IsForeign names key) (before after : List (Literal × Tree)) (t : Tree) :
    p.read? (.object (before ++ (key, t) :: after)) =
      (Literal.text? key).bind fun _ => p.read? (.object (before ++ after)) := by
  have hrecord := Tree.record?_insert foreign before after t
  cases p with
  | artifact =>
    cases record
    simp only [read?, ofJson?, hrecord]
    cases Literal.text? key <;> rfl
  | trials => cases record
  | trial =>
    cases record
    simp only [read?, Trial.ofJson?, hrecord]
    cases Literal.text? key <;> rfl

/-- Of an artifact's object the trials are read, if anything is. -/
theorem ofJson?_field {field : Literal} (h : Literal.text? field = some "trials")
    (before after : List (Literal × Tree)) :
    (∀ t, ofJson? (.object (before ++ (field, t) :: after)) =
      (t.list? Trial.ofJson?).map Artifact.mk) ∨
    ∀ t, ofJson? (.object (before ++ (field, t) :: after)) = none := by
  rcases Tree.record?_field h (List.mem_singleton_self "trials") before after with hsome | hnone
  · left
    intro t
    obtain ⟨fields, hrecord, hfield⟩ := hsome t
    simp only [ofJson?, hrecord, Option.bind_eq_bind, Option.bind_some, hfield]
  · right
    intro t
    simp only [ofJson?, hnone t]
    rfl

/-- One trial among the others. -/
theorem list?_append_cons (before after : List Tree) (t : Tree) :
    Tree.list? Trial.ofJson? (.array (before ++ t :: after)) =
      (before.mapM Trial.ofJson?).bind fun xs => (Trial.ofJson? t).bind fun x =>
        (after.mapM Trial.ofJson?).map fun ys => xs ++ x :: ys := by
  show (before ++ t :: after).mapM Trial.ofJson? = _
  rw [List.mapM_append, List.mapM_cons]
  cases before.mapM Trial.ofJson? with
  | none => rfl
  | some xs =>
    cases Trial.ofJson? t with
    | none => rfl
    | some x => cases after.mapM Trial.ofJson? <;> rfl

/-- Both texts are JSON, and what is read of the first one is read of the second one too, if the
name is a text. -/
theorem Enlarged.exists_trees {p : Place} {old new : List UInt8} (h : Enlarged key p old new) :
    ∃ t u : Tree, t.Spelled old ∧ u.Spelled new ∧
      p.read? u = (Literal.text? key).bind fun _ => p.read? t := by
  induction h with
  | @member p names blank before after m record foreign isBlank others isKey spelled text =>
    subst isKey
    have hall := forall_mem_append_cons.2 ⟨spelled, others⟩
    refine ⟨_, _, Tree.spelled_object isBlank others, Tree.spelled_object isBlank hall, ?_⟩
    rw [List.map_append, List.map_append, List.map_cons]
    exact Place.read?_insert record foreign _ _ m.value
  | @trials before after field name old new others names isField value ih =>
    obtain ⟨t, u, ht, hu, hread⟩ := ih
    refine ⟨_, _, Tree.spelled_object_field others names ht,
      Tree.spelled_object_field others names hu, ?_⟩
    show ofJson? _ = (Literal.text? key).bind fun _ => ofJson? _
    rcases ofJson?_field isField (before.map MemberText.member) (after.map MemberText.member) with
      hsome | hnone
    · have hlist : Tree.list? Trial.ofJson? u =
        (Literal.text? key).bind fun _ => Tree.list? Trial.ofJson? t := hread
      rw [hsome, hsome, hlist]
      cases Literal.text? key <;> rfl
    · rw [hnone, hnone]
      cases Literal.text? key <;> rfl
  | @tuple old new value ih =>
    obtain ⟨t, u, ht, hu, hread⟩ := ih
    refine ⟨_, _, Tree.spelled_array_single ht, Tree.spelled_array_single hu, ?_⟩
    show (Tree.list? Trial.ofJson? u).map Artifact.mk =
      (Literal.text? key).bind fun _ => (Tree.list? Trial.ofJson? t).map Artifact.mk
    have hlist : Tree.list? Trial.ofJson? u =
        (Literal.text? key).bind fun _ => Tree.list? Trial.ofJson? t := hread
    rw [hlist]
    cases Literal.text? key <;> rfl
  | @trial before after old new others value ih =>
    obtain ⟨t, u, ht, hu, hread⟩ := ih
    refine ⟨_, _, Tree.spelled_array_item others ht, Tree.spelled_array_item others hu, ?_⟩
    show Tree.list? Trial.ofJson? (.array (before.map Prod.fst ++ u :: after.map Prod.fst)) =
      (Literal.text? key).bind fun _ =>
        Tree.list? Trial.ofJson? (.array (before.map Prod.fst ++ t :: after.map Prod.fst))
    have htrial : Trial.ofJson? u = (Literal.text? key).bind fun _ => Trial.ofJson? t := hread
    rw [list?_append_cons, list?_append_cons, htrial]
    cases Literal.text? key with
    | none => cases (before.map Prod.fst).mapM Trial.ofJson? <;> rfl
    | some name => rfl
  | @padded p front back old new front_blank value back_blank ih =>
    obtain ⟨t, u, ht, hu, hread⟩ := ih
    exact ⟨t, u, .padded front_blank ht back_blank, .padded front_blank hu back_blank, hread⟩

/-- The second text is UTF-8 if the first one is. -/
theorem Enlarged.isText {p : Place} {old new : List UInt8} (h : Enlarged key p old new)
    (hold : IsText old) : IsText new := by
  have isText_bracketed : ∀ {left right : Char} {front back : List (List UInt8)}
      {text text' : List UInt8}, left.toUInt8 < 0x80 → right.toUInt8 < 0x80 →
      (IsText text → IsText text') → IsText (bracketed left right [] (front ++ text :: back)) →
      IsText (bracketed left right [] (front ++ text' :: back)) := by
    intro left right front back text text' hleft hright himp h
    rw [isText_bracketed_iff hleft hright isBlank_nil] at h ⊢
    rw [forall_mem_append_cons] at h ⊢
    exact ⟨himp h.1, h.2⟩
  induction h with
  | member record foreign isBlank others isKey spelled text =>
    rw [objectText, isText_bracketed_iff (by decide) (by decide) isBlank] at hold ⊢
    rw [List.map_append] at hold ⊢
    exact forall_mem_append_cons.2 ⟨text, hold⟩
  | trials others names isField value ih =>
    refine isText_bracketed (by decide) (by decide) (fun h => ?_) hold
    rw [isText_memberText_iff] at h ⊢
    exact ⟨h.1, ih h.2⟩
  | tuple value ih => exact @isText_bracketed _ _ [] [] _ _ (by decide) (by decide) ih hold
  | trial others value ih => exact isText_bracketed (by decide) (by decide) ih hold
  | padded front_blank value back_blank ih =>
    rw [isText_padded_iff front_blank back_blank] at hold ⊢
    exact ih hold

/-- The name of the member is a text when its surrogates come in pairs. -/
theorem Enlarged.isSome_text?_iff {p : Place} {old new : List UInt8} (h : Enlarged key p old new) :
    (Literal.text? key).isSome ↔ key.Paired := by
  induction h with
  | member record foreign isBlank others isKey spelled text =>
    subst isKey
    exact isSome_text?_iff_of_names spelled.name (isText_memberText_iff.1 text).1
  | trials others names isField value ih => exact ih
  | tuple value ih => exact ih
  | trial others value ih => exact ih
  | padded front_blank value back_blank ih => exact ih

/-- A foreign member whose name is a text is read past; any other name makes the text malformed. -/
theorem Enlarged.parse? {old new : List UInt8} (h : Enlarged key .artifact old new) :
    parse? new = (Literal.text? key).bind fun _ => parse? old := by
  obtain ⟨t, u, ht, hu, hread⟩ := h.exists_trees
  unfold Artifact.parse?
  rw [Tree.parse?_of_spelled ht, Tree.parse?_of_spelled hu]
  exact hread

theorem isText_of_load {path : String} {content : List UInt8} {a : Artifact}
    (h : load path (.octets content) = .ok a) : IsText content := by
  rw [load_octets] at h
  split at h
  · exact Utf8.isText_iff.2 ‹_›
  · cases h

/-- An artifact is loaded from the enlarged text as from the old one, or the text is malformed. -/
theorem Enlarged.load {path : String} {old new : List UInt8} {a : Artifact}
    (h : Enlarged key .artifact old new) (hold : load path (.octets old) = .ok a) :
    load path (.octets new) = if (Literal.text? key).isSome then .ok a else .error .malformed := by
  have htext := Utf8.isText_iff.1 (h.isText (isText_of_load hold))
  obtain ⟨_, hcontent, hparse⟩ := parse?_of_load hold
  cases hcontent
  rw [load_octets, if_pos htext, h.parse?, hparse]
  cases Literal.text? key <;> rfl

/-! ### Every position is reached -/

/-- The second tree is the first one with the member put into a record of it, at any position. -/
inductive Gains (m : Literal × Tree) : Place → Tree → Tree → Prop
  | member {p : Place} {names : List String} (record : p.fields? = some names)
      (foreign : Tree.IsForeign names m.1) (before after : List (Literal × Tree)) :
      Gains m p (.object (before ++ after)) (.object (before ++ m :: after))
  | trials {field : Literal} {t u : Tree} (isField : Literal.text? field = some "trials")
      (value : Gains m .trials t u) (before after : List (Literal × Tree)) :
      Gains m .artifact (.object (before ++ (field, t) :: after))
        (.object (before ++ (field, u) :: after))
  | tuple {t u : Tree} (value : Gains m .trials t u) : Gains m .artifact (.array [t]) (.array [u])
  | trial {t u : Tree} (value : Gains m .trial t u) (before after : List Tree) :
      Gains m .trials (.array (before ++ t :: after)) (.array (before ++ u :: after))

/-- Whatever the text of an artifact is, a member can be put into it at every position that its
records have. -/
theorem Gains.exists_enlarged {m : MemberText} (spelled : m.Spelled) (text : IsText m.octets)
    {p : Place} {t u : Tree} (h : Gains m.member p t u) {old : List UInt8} (hold : t.Spelled old) :
    ∃ new, Enlarged m.key p old new ∧ u.Spelled new := by
  induction h generalizing old with
  | member record foreign before after =>
    obtain ⟨front, blank, members, back, hfront, hblank, hback, hmembers, hms, rfl⟩ :=
      hold.exists_members
    obtain ⟨before, after, rfl, rfl, rfl⟩ := List.map_eq_append_iff.1 hms.symm
    refine ⟨front ++ objectText blank (before ++ m :: after) ++ back,
      .padded hfront (.member record foreign hblank hmembers rfl spelled text) hback, ?_⟩
    have hobject := Tree.spelled_object hblank (forall_mem_append_cons.2 ⟨spelled, hmembers⟩)
    rw [List.map_append, List.map_cons] at hobject
    exact .padded hfront hobject hback
  | @trials field t u isField value before after ih =>
    obtain ⟨front, blank, members, back, hfront, hblank, hback, hmembers, hms, rfl⟩ :=
      hold.exists_members
    obtain ⟨before, rest, rfl, rfl, hrest⟩ := List.map_eq_append_iff.1 hms.symm
    obtain ⟨⟨key, value, name, text⟩, after, rfl, ho, rfl⟩ := List.map_eq_cons_iff.1 hrest
    cases ho
    obtain ⟨hfield, hothers⟩ := forall_mem_append_cons.1 hmembers
    obtain ⟨new, henlarged, hnew⟩ := ih hfield.value
    rw [objectText_append_cons]
    exact ⟨_, .padded hfront (.trials hothers hfield.name isField henlarged) hback,
      .padded hfront (Tree.spelled_object_field hothers hfield.name hnew) hback⟩
  | @tuple t u value ih =>
    obtain ⟨front, blank, items, back, hfront, hblank, hback, hitems, hts, rfl⟩ :=
      hold.exists_items
    obtain ⟨⟨_, text⟩, rest, rfl, rfl, hrest⟩ := List.map_eq_cons_iff.1 hts.symm
    obtain rfl := List.map_eq_nil_iff.1 hrest
    obtain ⟨new, henlarged, hnew⟩ := ih (hitems _ List.mem_cons_self)
    exact ⟨_, .padded hfront (.tuple henlarged) hback,
      .padded hfront (Tree.spelled_array_single hnew) hback⟩
  | @trial t u value before after ih =>
    obtain ⟨front, blank, items, back, hfront, hblank, hback, hitems, hts, rfl⟩ :=
      hold.exists_items
    obtain ⟨before, rest, rfl, rfl, hrest⟩ := List.map_eq_append_iff.1 hts.symm
    obtain ⟨⟨_, text⟩, after, rfl, rfl, rfl⟩ := List.map_eq_cons_iff.1 hrest
    obtain ⟨hitem, hothers⟩ := forall_mem_append_cons.1 hitems
    obtain ⟨new, henlarged, hnew⟩ := ih hitem
    rw [List.map_append, List.map_cons, arrayText, bracketed_append_cons]
    exact ⟨_, .padded hfront (.trial hothers henlarged) hback,
      .padded hfront (Tree.spelled_array_item hothers hnew) hback⟩

/-- The grammar has every text that is read, so all of this holds of what is in a file. -/
theorem Gains.exists_enlarged_of_parse? {m : MemberText} (spelled : m.Spelled)
    (text : IsText m.octets) {t u : Tree} (h : Gains m.member .artifact t u) {old : List UInt8}
    (hold : Tree.parse? old = some t) :
    ∃ new, Enlarged m.key .artifact old new ∧ Tree.parse? new = some u := by
  obtain ⟨new, henlarged, hnew⟩ := h.exists_enlarged spelled text (Tree.spelled_of_parse? hold)
  exact ⟨new, henlarged, Tree.parse?_of_spelled hnew⟩

end Artifact

namespace ResultStore

/-- Members that no reader asks for are inert. Whatever value such a member has and wherever it is
put into the object of an artifact or of one of its trials, it changes no answer of a store, as
long as the surrogates in its name come in pairs. With a surrogate on its own in the name, the
artifact is malformed. No position is left out: every way to put such a member into the tree of the
artifact is a way to put it into the text. -/
theorem foreign_members_inert {path : String} {old : List UInt8} {a : Artifact}
    (loaded : Artifact.load path (.octets old) = .ok a) :
    (∀ (key : Literal) (new : List UInt8), Artifact.Enlarged key .artifact old new →
      let s : ResultStore := ⟨path, .octets old⟩
      let s' : ResultStore := ⟨path, .octets new⟩
      (key.Paired →
        s'.availability = s.availability ∧ s'.result = s.result ∧
          s'.resultOrEmpty = s.resultOrEmpty) ∧
      (¬key.Paired →
        s'.availability = .unreadable .malformed ∧ s'.result = .error .malformed ∧
          s'.resultOrEmpty = {})) ∧
    ∀ (m : MemberText) (t u : Tree), m.Spelled → IsText m.octets → Tree.parse? old = some t →
      Artifact.Gains m.member .artifact t u →
      ∃ new, Artifact.Enlarged m.key .artifact old new ∧ Tree.parse? new = some u := by
  refine ⟨fun key new enlarged => ?_, fun m t u spelled text hold hgains =>
    hgains.exists_enlarged_of_parse? spelled text hold⟩
  intro s s'
  have hload := enlarged.load loaded
  rw [← enlarged.isSome_text?_iff]
  constructor
  · intro hkey
    rw [if_pos hkey] at hload
    apply answers_eq_of_latestTrial_eq
    unfold latestTrial
    rw [hload, loaded]
  · intro hkey
    rw [if_neg hkey] at hload
    obtain ⟨havailability, -, hresult, hempty⟩ := answers_of_load_error hload
    exact ⟨havailability, hresult, hempty⟩

/-- A trial with a note on a number past all bounds and a surrogate on its own. -/
theorem foreign_members_inert_in_trial :
    let old := Utf8.encode "\x7b\"trials\":[\x7b\"result\":\"pass\"\x7d]\x7d"
    let new := Utf8.encode
      "\x7b\"trials\":[\x7b\"note\":[1e999,\"\\ud800\"],\"result\":\"pass\"\x7d]\x7d"
    let s : ResultStore := ⟨"r.json", .octets old⟩
    let s' : ResultStore := ⟨"r.json", .octets new⟩
    (∃ a, Artifact.load "r.json" (.octets old) = .ok a) ∧
      Artifact.Enlarged (literal "note") .artifact old new ∧
      (literal "note").Paired ∧
      s'.availability = s.availability ∧ s'.result = s.result ∧
        s'.resultOrEmpty = s.resultOrEmpty := by
  intro old new s s'
  have hload : Artifact.load "r.json" (.octets old) = .ok ⟨[⟨some (.text "pass"), none⟩]⟩ := by
    subst old
    rfl
  have hkey : (literal "note").Paired := paired_literal "note"
  have henlarged : Artifact.Enlarged (literal "note") .artifact old new := by
    let number : Numeral := ⟨false, [1], [], some (false, .none, [9, 9, 9])⟩
    let surrogate : List UInt8 := '\\'.toUInt8 :: 'u'.toUInt8 :: ascii ['d', '8', '0', '0']
    let items : List (Tree × List UInt8) :=
      [(.number number, ascii number.chars), (.string [.unit 0xD800], quoted (surrogate ++ []))]
    let result : MemberText := ⟨literal "result", .ofText "pass", Literal.print (literal "result"),
      (Tree.ofText "pass").print⟩
    let note : MemberText := ⟨literal "note", .array (items.map Prod.fst),
      Literal.print (literal "note"), arrayText [] (items.map Prod.snd)⟩
    have hresult : result.Spelled := ⟨names_literal _, (Tree.Written.text "pass").spelled⟩
    have hnumber : number.WellFormed :=
      ⟨.inr ⟨1, [], rfl, by decide⟩, fun _ _ _ h => by cases h; decide⟩
    have hsurrogate : Literal.Spelled [.unit 0xD800] (surrogate ++ []) :=
      .cons (.hex (n := 0xD800) rfl rfl) .nil
    have hitems : ∀ x ∈ items, x.1.Spelled x.2 :=
      List.forall_mem_cons.2 ⟨.number hnumber, List.forall_mem_singleton.2 (.string hsurrogate)⟩
    have hnote : note.Spelled := ⟨names_literal _, .array isBlank_nil hitems⟩
    have htrial : Artifact.Enlarged (literal "note") .trial (objectText [] ([] ++ [result]))
        (objectText [] ([] ++ note :: [result])) :=
      .member rfl (by decide +kernel) isBlank_nil (List.forall_mem_singleton.2 hresult) rfl hnote
        (Utf8.isText_of_lt (by decide +kernel))
    have htrials := @Artifact.Enlarged.trial _ [] [] _ _ (by simp) htrial
    exact @Artifact.Enlarged.trials _ [] [] _ _ _ _ (by simp) (names_literal "trials")
      (by decide +kernel) htrials
  have hinert := ((foreign_members_inert hload).1 _ _ henlarged).1 hkey
  exact ⟨⟨_, hload⟩, henlarged, hkey, hinert⟩

/-- A name that is no text: a surrogate on its own takes a passing artifact away. -/
theorem not_inert_unpaired_surrogate :
    let old := Utf8.encode
      "\x7b\"trials\":[\x7b\"result\":\"pass\",\"stats\":\x7b\x7d\x7d]\x7d"
    let new := Utf8.encode
      "\x7b\"\\ud800\":1,\"trials\":[\x7b\"result\":\"pass\",\"stats\":\x7b\x7d\x7d]\x7d"
    let s : ResultStore := ⟨"r.json", .octets old⟩
    let s' : ResultStore := ⟨"r.json", .octets new⟩
    (∃ a, Artifact.load "r.json" (.octets old) = .ok a) ∧
      Artifact.Enlarged [.unit 0xD800] .artifact old new ∧
      s.availability = .passed ∧ s'.availability = .unreadable .malformed ∧
      s'.availability ≠ s.availability := by
  intro old new s s'
  have hload : Artifact.load "r.json" (.octets old) = .ok ⟨[⟨some (.text "pass"), some []⟩]⟩ := by
    subst old
    rfl
  have havailability : s.availability = .passed := by decide +kernel
  have hmalformed : s'.availability = .unreadable .malformed := by decide +kernel
  refine ⟨⟨_, hload⟩, ?_, havailability, hmalformed, by rw [havailability, hmalformed]; decide⟩
  let one : Numeral := ⟨false, [1], [], none⟩
  let surrogate : List UInt8 := '\\'.toUInt8 :: 'u'.toUInt8 :: ascii ['d', '8', '0', '0']
  let list : Tree := .array [.record [("result", .ofText "pass"), ("stats", .record [])]]
  let trials : MemberText :=
    ⟨literal "trials", list, Literal.print (literal "trials"), list.print⟩
  let other : MemberText :=
    ⟨[.unit 0xD800], .number one, [] ++ quoted (surrogate ++ []) ++ [], ascii one.chars⟩
  have hlist : list.Written := by
    refine .array (List.forall_mem_singleton.2 (.record ?_))
    simp only [List.forall_mem_cons, List.not_mem_nil, false_imp_iff, implies_true, and_true]
    exact ⟨.text "pass", .record (by simp)⟩
  have htrials : trials.Spelled := ⟨names_literal _, hlist.spelled⟩
  have hone : one.WellFormed := ⟨.inr ⟨1, [], rfl, by decide⟩, fun _ _ _ h => by cases h⟩
  have hsurrogate : Literal.Spelled [.unit 0xD800] (surrogate ++ []) :=
    .cons (.hex (n := 0xD800) rfl rfl) .nil
  have hother : other.Spelled := ⟨.intro isBlank_nil hsurrogate isBlank_nil, .number hone⟩
  have henlarged : Artifact.Enlarged [.unit 0xD800] .artifact (objectText [] ([] ++ [trials]))
      (objectText [] ([] ++ other :: [trials])) :=
    .member rfl (by decide +kernel) isBlank_nil (List.forall_mem_singleton.2 htrials) rfl hother
      (Utf8.isText_of_lt (by decide +kernel))
  exact henlarged

end ResultStore
end LoadBench
