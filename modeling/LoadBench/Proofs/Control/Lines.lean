import LoadBench.Control.Connection
import Mathlib.Data.List.Basic

/-! How an input falls into lines. The pieces that are read are determined by a grammar: a line
ends at its newline, at the cap, or at the end of the input. -/
namespace LoadBench.Connection

/-- The lines of an input. A line without a newline is the last one or is cut at the cap, which
lies one octet past the longest line that is allowed. -/
inductive IsCut : List UInt8 → List (List UInt8) → Prop
  | nil : IsCut [] []
  | last {line : List UInt8} (nonempty : line ≠ []) (unended : newline ∉ line)
      (short : line.length ≤ maxRequestLine) : IsCut line [line]
  | ended {body rest : List UInt8} {pieces : List (List UInt8)} (unended : newline ∉ body)
      (short : body.length ≤ maxRequestLine) (cut : IsCut rest pieces) :
      IsCut (body ++ newline :: rest) ((body ++ [newline]) :: pieces)
  | full {line rest : List UInt8} {pieces : List (List UInt8)} (unended : newline ∉ line)
      (length : line.length = maxRequestLine + 1) (cut : IsCut rest pieces) :
      IsCut (line ++ rest) (line :: pieces)

/-- Octets without a newline are taken in whole, whatever follows. -/
theorem takeWhile_append {line : List UInt8} (rest : List UInt8) (h : newline ∉ line) :
    (line ++ rest).takeWhile (· != newline) = line ++ rest.takeWhile (· != newline) := by
  apply List.takeWhile_append_of_pos
  intro b hb
  have hne : b ≠ newline := fun e => h (e ▸ hb)
  simpa using hne

theorem takeWhile_eq_self {line : List UInt8} (h : newline ∉ line) :
    line.takeWhile (· != newline) = line := by
  simpa using takeWhile_append [] h

theorem lineLength_last {line : List UInt8} (h : newline ∉ line)
    (hl : line.length ≤ maxRequestLine) : lineLength line = line.length := by
  rw [lineLength, List.take_of_length_le (by omega), takeWhile_eq_self h]
  omega

theorem lineLength_ended {body : List UInt8} (rest : List UInt8) (h : newline ∉ body)
    (hl : body.length ≤ maxRequestLine) :
    lineLength (body ++ newline :: rest) = body.length + 1 := by
  have hpiece : (body ++ newline :: rest).take (maxRequestLine + 1) =
      body ++ newline :: rest.take (maxRequestLine - body.length) := by
    rw [List.take_append, List.take_of_length_le (by omega),
      Nat.sub_add_comm hl, List.take_succ_cons]
  rw [lineLength, hpiece, takeWhile_append _ h]
  simp only [List.takeWhile_cons, bne_self_eq_false, Bool.false_eq_true, if_false,
    List.append_nil, List.length_append, List.length_cons]
  omega

theorem lineLength_full {line : List UInt8} (rest : List UInt8) (h : newline ∉ line)
    (hl : line.length = maxRequestLine + 1) : lineLength (line ++ rest) = line.length := by
  rw [lineLength, ← hl, List.take_left, takeWhile_eq_self h]
  omega

/-- The first piece that is read, given how long it is. -/
theorem lines_append_of_lineLength {line : List UInt8} (rest : List UInt8) (h : line ≠ [])
    (hl : lineLength (line ++ rest) = line.length) : lines (line ++ rest) = line :: lines rest := by
  rw [lines_of_ne_nil (by simp [h]), hl, List.take_left, List.drop_left]

/-- Reading line by line follows the grammar. -/
theorem IsCut.eq_lines {input : List UInt8} {pieces : List (List UInt8)}
    (h : IsCut input pieces) : pieces = lines input := by
  induction h with
  | nil => simp
  | @last line hne hu hs =>
    have := lines_append_of_lineLength [] hne (by simpa using lineLength_last hu hs)
    simpa using this.symm
  | @ended body rest pieces hu hs hc ih =>
    have hl := lineLength_ended rest hu hs
    have hne : body ++ [newline] ≠ [] := by simp
    have := lines_append_of_lineLength rest hne (by simpa using hl)
    rw [ih]
    simpa using this.symm
  | @full line rest pieces hu hl hc ih =>
    rw [lines_append_of_lineLength rest (List.ne_nil_of_length_eq_add_one hl)
      (lineLength_full rest hu hl), ih]

/-- An input is an unfinished last line, or starts with a line that has its newline or with one
that reaches the cap. -/
private theorem first_line (input : List UInt8) :
    (newline ∉ input ∧ input.length ≤ maxRequestLine) ∨
    (∃ body rest, input = body ++ newline :: rest ∧ newline ∉ body ∧
      body.length ≤ maxRequestLine) ∨
    ∃ line rest, input = line ++ rest ∧ newline ∉ line ∧ line.length = maxRequestLine + 1 := by
  by_cases hm : newline ∈ input.take (maxRequestLine + 1)
  · obtain ⟨body, rest, hp, hu⟩ := List.eq_append_cons_of_mem hm
    have hlen := congrArg List.length hp
    simp only [List.length_take, List.length_append, List.length_cons] at hlen
    refine .inr (.inl ⟨body, rest ++ input.drop (maxRequestLine + 1), ?_, hu, by omega⟩)
    have := List.take_append_drop (maxRequestLine + 1) input
    rw [hp] at this
    simpa using this.symm
  · by_cases hl : input.length ≤ maxRequestLine
    · rw [List.take_of_length_le (by omega)] at hm
      exact .inl ⟨hm, hl⟩
    · refine .inr (.inr ⟨_, _, (List.take_append_drop (maxRequestLine + 1) input).symm, hm, ?_⟩)
      rw [List.length_take]
      omega

theorem isCut_lines (input : List UInt8) : IsCut input (lines input) := by
  induction hn : input.length using Nat.strongRecOn generalizing input with
  | ind n ih =>
    by_cases h : input = []
    · subst h
      simpa using IsCut.nil
    rcases first_line input with ⟨hu, hs⟩ | ⟨body, rest, rfl, hu, hs⟩ | ⟨line, rest, rfl, hu, hl⟩
    · have hc := IsCut.last h hu hs
      rwa [← hc.eq_lines]
    · have hc := IsCut.ended hu hs (ih rest.length (by simp at hn; omega) rest rfl)
      rwa [← hc.eq_lines]
    · have hc := IsCut.full hu hl (ih rest.length (by simp at hn; omega) rest rfl)
      rwa [← hc.eq_lines]

/-- Every input falls into lines in exactly one way. -/
theorem isCut_iff {input : List UInt8} {pieces : List (List UInt8)} :
    IsCut input pieces ↔ pieces = lines input :=
  ⟨IsCut.eq_lines, fun h => h ▸ isCut_lines input⟩

/-- Whatever follows a newline does not matter for the lines before it. -/
theorem lines_append {a : List UInt8} (b : List UInt8) (h : a.getLast? = some newline) :
    lines (a ++ b) = lines a ++ lines b := by
  suffices hc : IsCut (a ++ b) (lines a ++ lines b) from hc.eq_lines.symm
  generalize lines a = pieces, isCut_lines a = ha
  induction ha with
  | nil => cases h
  | last hne hu hs => exact absurd (List.mem_of_getLast? h) hu
  | @ended body rest pieces hu hs hc ih =>
    rw [List.append_assoc, List.cons_append, List.cons_append]
    apply IsCut.ended hu hs
    by_cases hr : rest = []
    · subst hr
      rw [isCut_iff.1 hc, lines_nil]
      exact isCut_lines b
    · rw [List.getLast?_append_of_ne_nil _ (by simp), List.getLast?_cons_of_ne_nil hr] at h
      exact ih h
  | @full line rest pieces hu hl hc ih =>
    rw [List.append_assoc, List.cons_append]
    apply IsCut.full hu hl
    by_cases hr : rest = []
    · subst hr
      rw [List.append_nil] at h
      exact absurd (List.mem_of_getLast? h) hu
    · rw [List.getLast?_append_of_ne_nil _ hr] at h
      exact ih h

/-- A line with another one after it is complete: new octets behind it start a line of their
own. -/
theorem lines_replace {input : List UInt8} {before after : List (List UInt8)} (tail : List UInt8)
    (h : lines input = before ++ after) (ha : after ≠ []) :
    lines (before.flatten ++ tail) = before ++ lines tail := by
  suffices hc : IsCut (before.flatten ++ tail) (before ++ lines tail) from hc.eq_lines.symm
  have hi := isCut_iff.2 h.symm
  clear h
  induction before generalizing input with
  | nil => exact isCut_lines tail
  | cons line before ih =>
    rw [List.flatten_cons, List.append_assoc, List.cons_append]
    generalize hp : line :: before ++ after = pieces at hi
    cases hi with
    | nil => cases hp
    | last =>
      have : before ++ after = [] := (List.cons.inj hp).2
      exact absurd (List.append_eq_nil_iff.1 this).2 ha
    | @ended body _ _ hu hs hc =>
      obtain ⟨rfl, rfl⟩ := List.cons.inj hp
      rw [List.append_assoc]
      exact .ended hu hs (ih hc)
    | full hu hl hc =>
      obtain ⟨rfl, rfl⟩ := List.cons.inj hp
      exact .full hu hl (ih hc)

end LoadBench.Connection
