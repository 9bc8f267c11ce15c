import LoadBench.Proofs.Text.Parts
import LoadBench.Text.Words
import Mathlib.Logic.ExistsUnique

/-!
The words of a text of options.

Main statement: what stands between the quotes around a text is split at its blanks, and only these
are lost. More quotes around the text change nothing, and words that were joined come back.
-/
namespace LoadBench.Text

def IsWord (w : List Char) : Prop := w ≠ [] ∧ ∀ c ∈ w, isBlank c = false

instance (w : List Char) : Decidable (IsWord w) :=
  decidable_of_iff (w ≠ [] ∧ w.all (fun c => !isBlank c) = true) (by simp [IsWord])

/-- A text and its words, each with a blank or the end behind it. -/
inductive Spaced : List (List Char) → List Char → Prop
  | nil : Spaced [] []
  | blank {c : Char} {ws : List (List Char)} {cs : List Char} (isBlank : isBlank c = true)
      (rest : Spaced ws cs) : Spaced ws (c :: cs)
  | word {w : List Char} {ws : List (List Char)} {cs : List Char} (isWord : IsWord w)
      (ends : ∀ c, cs.head? = some c → Text.isBlank c = true) (rest : Spaced ws cs) :
      Spaced (w :: ws) (w ++ cs)

variable {w cs core : List Char} {ws : List (List Char)} {c : Char}

/-! ### Splitting at blanks -/

theorem words_append_blank (hc : isBlank c = true) (left right : List Char) :
    words (left ++ c :: right) = words left ++ words right := by
  unfold words
  rw [List.splitOnP_append_cons left right hc, List.filter_append]

theorem words_blank_cons (hc : isBlank c = true) (cs : List Char) : words (c :: cs) = words cs := by
  have hsplit := words_append_blank hc [] cs
  simpa [words] using hsplit

theorem words_of_isWord (h : IsWord w) : words w = [w] := by
  unfold words
  rw [List.splitOnP_eq_singleton h.2]
  simp [h.1]

theorem Spaced.eq_words (h : Spaced ws cs) : words cs = ws := by
  induction h with
  | nil => rfl
  | blank hc _ ih => rw [words_blank_cons hc, ih]
  | @word w ws cs hw ends rest ih =>
    cases cs with
    | nil =>
      have hnone : ws = [] := ih.symm.trans rfl
      rw [List.append_nil, words_of_isWord hw, hnone]
    | cons c cs =>
      have hc : isBlank c = true := ends c rfl
      rw [words_append_blank hc, words_of_isWord hw, ← ih, words_blank_cons hc]
      rfl

theorem IsWord.cons (hc : isBlank c = false) (hw : ∀ d ∈ w, isBlank d = false) : IsWord (c :: w) :=
  ⟨List.cons_ne_nil c w, List.forall_mem_cons.2 ⟨hc, hw⟩⟩

/-- A letter in front extends the first word, or is a word of its own before a blank. -/
theorem Spaced.exists_cons (h : Spaced ws cs) (hc : isBlank c = false) :
    ∃ ws', Spaced ws' (c :: cs) := by
  cases h with
  | nil =>
    have hword : IsWord [c] := .cons hc (by simp)
    exact ⟨[[c]], .word hword (by simp) .nil⟩
  | @blank d ws cs hd rest =>
    have hword : IsWord [c] := .cons hc (by simp)
    exact ⟨[c] :: ws, .word hword (by simpa using hd) (.blank hd rest)⟩
  | @word w ws cs hw ends rest => exact ⟨(c :: w) :: ws, .word (.cons hc hw.2) ends rest⟩

theorem exists_spaced (cs : List Char) : ∃ ws, Spaced ws cs := by
  induction cs with
  | nil => exact ⟨[], .nil⟩
  | cons c cs ih =>
    obtain ⟨ws, h⟩ := ih
    cases hc : isBlank c with
    | true => exact ⟨ws, .blank hc h⟩
    | false => exact h.exists_cons hc

/-- There is one way to split a text. -/
theorem words_eq_iff : words cs = ws ↔ Spaced ws cs := by
  constructor
  · intro h
    obtain ⟨ws', hspaced⟩ := exists_spaced cs
    rwa [← h, hspaced.eq_words]
  · exact Spaced.eq_words

theorem Spaced.isWord (h : Spaced ws cs) (hw : w ∈ ws) : IsWord w := by
  induction h with
  | nil => cases hw
  | blank _ _ ih => exact ih hw
  | word isWord _ _ ih =>
    rcases List.mem_cons.1 hw with rfl | hw
    · exact isWord
    · exact ih hw

/-- Only the blanks are lost. -/
theorem Spaced.flatten (h : Spaced ws cs) : ws.flatten = cs.filter fun c => !isBlank c := by
  induction h with
  | nil => rfl
  | blank hc _ ih => simp [hc, ih]
  | @word w ws cs hw _ _ ih =>
    have hself : w.filter (fun c => !isBlank c) = w :=
      List.filter_eq_self.2 fun c hc => by simp [hw.2 c hc]
    rw [List.flatten_cons, ih, List.filter_append, hself]

/-- Words that are joined, with blanks between each two of them. -/
inductive Joined : List (List Char) → List Char → Prop
  | nil : Joined [] []
  | single (w : List Char) : Joined [w] w
  | cons {v w : List Char} {ws : List (List Char)} {gap cs : List Char} (gap_ne_nil : gap ≠ [])
      (gap_blank : ∀ c ∈ gap, isBlank c = true) (rest : Joined (w :: ws) cs) :
      Joined (v :: w :: ws) (v ++ (gap ++ cs))

theorem Spaced.blanks {gap : List Char} (hgap : ∀ c ∈ gap, isBlank c = true) (h : Spaced ws cs) :
    Spaced ws (gap ++ cs) := by
  induction gap with
  | nil => exact h
  | cons c gap ih =>
    obtain ⟨hc, hrest⟩ := List.forall_mem_cons.1 hgap
    exact .blank hc (ih hrest)

theorem Joined.spaced (h : Joined ws cs) (hws : ∀ w ∈ ws, IsWord w) : Spaced ws cs := by
  induction h with
  | nil => exact .nil
  | single w =>
    have hend : ∀ c, ([] : List Char).head? = some c → isBlank c = true := by simp
    have hspaced := Spaced.word (hws w (by simp)) hend .nil
    rwa [List.append_nil] at hspaced
  | @cons v w ws gap cs hne hgap _ ih =>
    obtain ⟨hv, hrest⟩ := List.forall_mem_cons.1 hws
    obtain ⟨b, gap, rfl⟩ := List.exists_cons_of_ne_nil hne
    have hend : ∀ c, (b :: gap ++ cs).head? = some c → isBlank c = true := by
      rintro _ ⟨⟩
      exact hgap b List.mem_cons_self
    exact .word hv hend ((ih hrest).blanks hgap)

theorem Joined.head? (h : Joined ws cs) (hws : ∀ w ∈ ws, IsWord w) {c : Char}
    (hc : cs.head? = some c) : ∃ w, ws.head? = some w ∧ w.head? = some c := by
  cases h with
  | nil => cases hc
  | single w => exact ⟨_, rfl, hc⟩
  | @cons v w ws gap cs _ _ _ =>
    obtain ⟨d, v, rfl⟩ := List.exists_cons_of_ne_nil (hws v (by simp)).1
    exact ⟨d :: v, rfl, hc⟩

theorem Joined.getLast? (h : Joined ws cs) (hws : ∀ w ∈ ws, IsWord w) {c : Char}
    (hc : cs.getLast? = some c) : ∃ w, ws.getLast? = some w ∧ w.getLast? = some c := by
  induction h with
  | nil => cases hc
  | single w => exact ⟨w, rfl, hc⟩
  | @cons v w ws gap cs _ _ rest ih =>
    obtain ⟨-, hrest⟩ := List.forall_mem_cons.1 hws
    have hcs : cs ≠ [] := by
      rintro rfl
      have hword := (rest.spaced hrest).eq_words
      cases hword
    have hlast : (v ++ (gap ++ cs)).getLast? = cs.getLast? := by
      rw [List.getLast?_append, List.getLast?_append, List.getLast?_eq_some_getLast hcs]
      rfl
    obtain ⟨u, hu, huc⟩ := ih hrest (hlast ▸ hc)
    exact ⟨u, by rwa [List.getLast?_cons_cons], huc⟩

/-! ### Quotes around a text -/

/-- A text with quotes around it, of either kind and as many as there may be. -/
def Quoted (inner cs : List Char) : Prop :=
  ∃ front back, cs = front ++ inner ++ back ∧ (∀ c ∈ front, isQuote c = true) ∧
    ∀ c ∈ back, isQuote c = true

/-- A text without its quotes: it neither begins nor ends with one. -/
structure IsCore (cs core : List Char) : Prop where
  quoted : Quoted core cs
  head : ∀ c, core.head? = some c → isQuote c = false
  last : ∀ c, core.getLast? = some c → isQuote c = false

theorem isCore_trimBy (cs : List Char) : IsCore cs (trimBy isQuote cs) where
  quoted := exists_trimBy isQuote cs
  head _ h := head?_trimBy h
  last _ h := getLast?_trimBy h

theorem IsCore.eq_trimBy (h : IsCore cs core) : core = trimBy isQuote cs := by
  obtain ⟨front, back, rfl, hfront, hback⟩ := h.quoted
  exact (trimBy_eq_core hfront hback h.head h.last).symm

theorem Quoted.trans {inner middle outer : List Char} (h : Quoted inner middle)
    (h' : Quoted middle outer) : Quoted inner outer := by
  obtain ⟨front, back, rfl, hfront, hback⟩ := h
  obtain ⟨front', back', rfl, hfront', hback'⟩ := h'
  exact ⟨front' ++ front, back ++ back', by simp, List.forall_mem_append.2 ⟨hfront', hfront⟩,
    List.forall_mem_append.2 ⟨hback, hback'⟩⟩

/-- Further quotes around a text leave its core. -/
theorem IsCore.quote (h : IsCore cs core) {outer : List Char} (ho : Quoted cs outer) :
    IsCore outer core where
  quoted := h.quoted.trans ho
  head := h.head
  last := h.last

theorem map_toList_optionWords {raw : String} (h : IsCore raw.toList core) :
    (optionWords raw).map String.toList = words core := by
  rw [optionWords, ← h.eq_trimBy, List.map_map]
  exact List.map_id'' (fun w => String.toList_ofList) _

theorem optionWords_eq_iff {raw : String} {tokens : List String} (h : IsCore raw.toList core) :
    optionWords raw = tokens ↔ Spaced (tokens.map String.toList) core := by
  rw [← words_eq_iff, ← map_toList_optionWords h]
  exact (List.map_inj_right fun _ _ => String.toList_inj.1).symm

/-- Words that neither begin nor end with a quote, as a whole, are the core of what they are
joined to. -/
theorem Joined.isCore {joined : List Char} (h : Joined ws joined) (hws : ∀ w ∈ ws, IsWord w)
    (hhead : ∀ w, ws.head? = some w → ∀ c, w.head? = some c → isQuote c = false)
    (hlast : ∀ w, ws.getLast? = some w → ∀ c, w.getLast? = some c → isQuote c = false)
    (hq : Quoted joined cs) : IsCore cs joined where
  quoted := hq
  head c hc := by
    obtain ⟨w, hw, hwc⟩ := h.head? hws hc
    exact hhead w hw c hwc
  last c hc := by
    obtain ⟨w, hw, hwc⟩ := h.getLast? hws hc
    exact hlast w hw c hwc

/-- What is split is the one core of a text. Its blanks are lost and nothing else, and each word is
as long as it can be; further quotes around the text make no difference. Words that are joined by
blanks come back, with quotes around them or without. -/
theorem optionWords_lossless (raw : String) :
    (∃! core, IsCore raw.toList core) ∧
      (∀ core, IsCore raw.toList core →
        (optionWords raw).flatMap String.toList = core.filter (fun c => !isBlank c) ∧
          Spaced ((optionWords raw).map String.toList) core) ∧
      (∀ w ∈ optionWords raw, IsWord w.toList) ∧
      (∀ outer : String, Quoted raw.toList outer.toList → optionWords outer = optionWords raw) ∧
      ∀ (tokens : List String) (joined : List Char), (∀ w ∈ tokens, IsWord w.toList) →
        (∀ w, tokens.head? = some w → ∀ c, w.toList.head? = some c → isQuote c = false) →
        (∀ w, tokens.getLast? = some w → ∀ c, w.toList.getLast? = some c → isQuote c = false) →
        Joined (tokens.map String.toList) joined → Quoted joined raw.toList →
          optionWords raw = tokens := by
  have hcore := isCore_trimBy raw.toList
  have hspaced : ∀ core, IsCore raw.toList core →
      Spaced ((optionWords raw).map String.toList) core := fun core h => (optionWords_eq_iff h).1 rfl
  refine ⟨⟨_, hcore, fun core h => h.eq_trimBy⟩, ?_, ?_, ?_, ?_⟩
  · intro core h
    refine ⟨?_, hspaced core h⟩
    rw [List.flatMap_def]
    exact (hspaced core h).flatten
  · intro w hw
    exact (hspaced _ hcore).isWord (List.mem_map_of_mem hw)
  · intro outer houter
    exact (optionWords_eq_iff (hcore.quote houter)).2 (hspaced _ hcore)
  · intro tokens joined hwords hhead hlast hjoined hquoted
    have hws : ∀ w ∈ tokens.map String.toList, IsWord w := List.forall_mem_map.2 hwords
    have hjoinedCore : IsCore raw.toList joined := by
      refine hjoined.isCore hws ?_ ?_ hquoted
      · intro w hw
        obtain ⟨token, htoken, rfl⟩ := Option.map_eq_some_iff.1 (List.head?_map ▸ hw)
        exact hhead token htoken
      · intro w hw
        obtain ⟨token, htoken, rfl⟩ := Option.map_eq_some_iff.1 (List.getLast?_map ▸ hw)
        exact hlast token htoken
    exact (optionWords_eq_iff hjoinedCore).2 (hjoined.spaced hws)

/-- Quotes inside the text stay; those around it go, however many and of whatever kind. -/
theorem optionWords_lossless_inner_quotes :
    let tokens := ["--a=\"x", "y\"", "'b", "c"]
    let joined := "--a=\"x".toList ++ ([' ', '\t', '\u2003'] ++ ("y\"".toList ++
      ([' '] ++ ("'b".toList ++ (['\n'] ++ "c".toList)))))
    let raw := "'\"--a=\"x \t\u2003y\" 'b\nc\"'\""
    let outer := "''\"--a=\"x \t\u2003y\" 'b\nc\"'\"\""
    Joined (tokens.map String.toList) joined ∧ IsCore raw.toList joined ∧
      Quoted raw.toList outer.toList ∧ optionWords raw = tokens ∧ optionWords outer = tokens ∧
      tokens.flatMap String.toList = joined.filter fun c => !isBlank c := by
  intro tokens joined raw outer
  have blanks {gap : List Char} (h : gap.all isBlank = true) : ∀ c ∈ gap, isBlank c = true :=
    List.all_eq_true.1 h
  have quotes {qs : List Char} (h : qs.all isQuote = true) : ∀ c ∈ qs, isQuote c = true :=
    List.all_eq_true.1 h
  have hjoined : Joined (tokens.map String.toList) joined :=
    .cons (by simp) (blanks rfl) (.cons (by simp) (blanks rfl) (.cons (by simp) (blanks rfl)
      (.single _)))
  have hraw : Quoted joined raw.toList :=
    ⟨['\'', '"'], ['"', '\'', '"'], by decide, quotes rfl, quotes rfl⟩
  have houter : Quoted raw.toList outer.toList :=
    ⟨['\''], ['"'], by decide, quotes rfl, quotes rfl⟩
  have hcore : IsCore raw.toList joined := ⟨hraw, by simp [joined, isQuote], by simp [joined, isQuote]⟩
  obtain ⟨-, hcores, -, hquoted, hjoins⟩ := optionWords_lossless raw
  have hwords : optionWords raw = tokens :=
    hjoins tokens joined (by decide) (by simp [tokens, isQuote]) (by simp [tokens, isQuote]) hjoined
      hraw
  have hletters := (hcores joined hcore).1
  rw [hwords] at hletters
  exact ⟨hjoined, hcore, houter, hwords, (hquoted outer houter).trans hwords, hletters⟩

end LoadBench.Text
