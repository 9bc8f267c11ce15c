import LoadBench.Proofs.Control.Overlong
import LoadBench.Proofs.Control.Remote
import LoadBench.Proofs.Json.Recognition

/-!
The last line of an input, with a newline behind it or without.

Main statement: the newline changes nothing, unless the line is as long as a line may be. The
newline counts, so it makes that line too long.
-/
namespace LoadBench
namespace Json.Tree

/-- Behind a value a newline is white space. -/
theorem Spelled.of_newline {t : Tree} {text : List UInt8}
    (h : t.Spelled (text ++ ['\n'.toUInt8])) : t.Spelled text := by
  have last_eq : ∀ {left right : UInt8} {middle text : List UInt8},
      left :: (middle ++ [right]) = text ++ ['\n'.toUInt8] → right = '\n'.toUInt8 := by
    intro left right middle text h
    rw [← List.cons_append] at h
    exact (List.append_singleton_inj.1 h).2
  have mem : ∀ text : List UInt8, '\n'.toUInt8 ∈ text ++ ['\n'.toUInt8] := by simp
  generalize hbs : text ++ ['\n'.toUInt8] = bs at h
  induction h generalizing text with
  | null => exact absurd (isPlain_of_all (by decide) _ (hbs ▸ mem text)) (by decide)
  | true => exact absurd (isPlain_of_all (by decide) _ (hbs ▸ mem text)) (by decide)
  | false => exact absurd (isPlain_of_all (by decide) _ (hbs ▸ mem text)) (by decide)
  | number wellFormed => exact absurd (isPlain_numeral (hbs ▸ mem text)) (by decide)
  | string literal => exact absurd (last_eq hbs.symm) (by decide)
  | array isBlank values => exact absurd (last_eq hbs.symm) (by decide)
  | object isBlank names values => exact absurd (last_eq hbs.symm) (by decide)
  | @padded t front bs back front_blank value back_blank ih =>
    rcases List.eq_nil_or_concat' back with rfl | ⟨back, b, rfl⟩
    · -- the newline is the last octet of the value's own text
      rcases List.eq_nil_or_concat' bs with rfl | ⟨bs, b, rfl⟩
      · cases parse?_of_spelled value
      · rw [List.append_nil, ← List.append_assoc] at hbs
        obtain ⟨rfl, hb⟩ := List.append_singleton_inj.1 hbs
        have hvalue : t.Spelled bs := ih (by rw [hb])
        simpa using Spelled.padded front_blank hvalue isBlank_nil
    · rw [← List.append_assoc] at hbs
      obtain ⟨rfl, -⟩ := List.append_singleton_inj.1 hbs
      exact .padded front_blank value (List.forall_mem_append.1 back_blank).1

theorem parse?_append_newline (text : List UInt8) :
    parse? (text ++ ['\n'.toUInt8]) = parse? text := by
  have hblank : IsBlank ['\n'.toUInt8] := by
    intro b hb
    rw [List.mem_singleton.1 hb]
    rfl
  refine Option.ext fun t => ?_
  rw [parse?_eq_some_iff, parse?_eq_some_iff]
  exact ⟨Spelled.of_newline, fun h => .padded isBlank_nil h hblank⟩

end Json.Tree

/-! ### What answers begin with -/

theorem head_append {p : String} {c : Char} (h : p.toList.head? = some c) (s : String) :
    (p ++ s).toList.head? = some c := by
  rw [String.toList_append, List.head?_append, h, Option.some_or]

theorem FormatError.head_message (e : FormatError) : e.message.toList.head? = some 'i' := by
  unfold message
  cases e with
  | address kind input => exact head_append (head_append (head_append (head_append rfl _) _) _) _
  | count input => exact head_append (head_append rfl _) _
  | field kind input => exact head_append (head_append (head_append (head_append rfl _) _) _) _

theorem ParameterError.head_message (e : ParameterError) :
    e.message.toList.head? = some 'i' ∨ e.message.toList.head? = some 'c' ∨
      e.message.toList.head? = some 'v' := by
  unfold message
  cases e with
  | format e => exact .inl e.head_message
  | noExplicitMacs => exact .inr (.inl rfl)
  | exclusiveTags vlan priority outer inner qinqPriority =>
    right; left
    repeat apply head_append
    rfl
  | _ =>
    right; right
    repeat apply head_append
    rfl

namespace Connection

open Utf8 (IsText isText_nil isText_append_cons isText_iff)

/-! ### One line -/

theorem isText_append_newline {line : List UInt8} : IsText (line ++ [newline]) ↔ IsText line :=
  (isText_append_cons (by decide)).trans (and_iff_left isText_nil)

theorem parse?_append_newline (line : List UInt8) :
    Request.parse? (line ++ [newline]) = Request.parse? line :=
  congrArg (Option.bind · Request.ofJson?) (Json.Tree.parse?_append_newline line)

theorem isBlank_append_newline (line : List UInt8) :
    isBlank (line ++ [newline]) = isBlank line := by
  unfold isBlank
  cases hline : Utf8.decode? line with
  | none =>
    have hended : Utf8.decode? (line ++ [newline]) = none := by
      rw [← Option.not_isSome_iff_eq_none, ← isText_iff, isText_append_newline, isText_iff, hline]
      exact Bool.false_ne_true
    rw [hended]
  | some text =>
    have hended : Utf8.decode? (line ++ [newline]) = some (text ++ "\n") := by
      rw [Utf8.decode?_eq_some_iff, Utf8.encode_append, Utf8.encode_of_decode? hline]
      rfl
    rw [hended, Option.any_some, Option.any_some, String.toList_append, List.all_append]
    exact Bool.and_true _

section
variable {σ : Type} (handle : Request → σ → Response × σ) (state : σ)

theorem stops_iff {line : List UInt8} :
    Stops line ↔ ¬IsText line ∨ maxRequestLine < line.length := by
  rw [Stops, isText_iff, Option.not_isSome_iff_eq_none]

/-- A line that is not UTF-8 ends the connection without a word. -/
theorem serveLines_of_not_isText {line : List UInt8} (h : ¬IsText line)
    (rest : List (List UInt8)) : serveLines handle state (line :: rest) = ([], state) := by
  rw [serveLines_of_stops handle state (stops_iff.2 (.inl h)), if_neg fun hs => h (isText_iff.2 hs)]

/-- A line that has room for its newline. -/
theorem serveLines_append_newline {line : List UInt8} (h : line.length < maxRequestLine) :
    serveLines handle state [line ++ [newline]] = serveLines handle state [line] := by
  by_cases htext : IsText line
  · have hstops : ¬Stops line := by
      rw [stops_iff]
      exact fun hs => hs.elim (absurd htext) (by omega)
    have hstops' : ¬Stops (line ++ [newline]) := by
      rw [stops_iff, isText_append_newline, List.length_append, List.length_singleton]
      exact fun hs => hs.elim (absurd htext) (by omega)
    cases hblank : isBlank line with
    | true =>
      rw [serveLines_of_isBlank handle state hstops hblank,
        serveLines_of_isBlank handle state hstops' ((isBlank_append_newline line).trans hblank)]
    | false =>
      have hanswer : answer handle state (line ++ [newline]) = answer handle state line := by
        rw [answer, answer, parse?_append_newline]
      have hstate : stateAfter handle state [line ++ [newline]] =
          stateAfter handle state [line] := by
        simp only [stateAfter, List.filterMap_cons, parse?_append_newline]
      rw [serveLines_of_asking handle state hstops hblank,
        serveLines_of_asking handle state hstops' ((isBlank_append_newline line).trans hblank),
        hanswer, hstate]
  · rw [serveLines_of_not_isText handle state htext,
      serveLines_of_not_isText handle state (mt isText_append_newline.1 htext)]

/-! ### The last line -/

variable {last : List UInt8}

theorem lines_unended (hne : last ≠ []) (hunended : newline ∉ last)
    (h : last.length ≤ maxRequestLine) :
    lines last = [last] ∧ lines (last ++ [newline]) = [last ++ [newline]] :=
  ⟨(IsCut.last hne hunended h).eq_lines.symm, (IsCut.ended hunended h .nil).eq_lines.symm⟩

/-- Over the limit a line is read up to the cap, and does not get as far as its end. -/
theorem serve_append_of_overlong (hunended : newline ∉ last) (h : maxRequestLine < last.length)
    (tail : List UInt8) : serve handle state (last ++ tail) = serve handle state last := by
  have hlength : (last.take (maxRequestLine + 1)).length = maxRequestLine + 1 := by
    rw [List.length_take]
    omega
  have hlines : ∀ tail, lines (last ++ tail) = last.take (maxRequestLine + 1) ::
      lines (last.drop (maxRequestLine + 1) ++ tail) := by
    intro tail
    have hcut := lines_append_of_lineLength (last.drop (maxRequestLine + 1) ++ tail)
      (List.ne_nil_of_length_eq_add_one hlength)
      (lineLength_full _ (fun hmem => hunended (List.mem_of_mem_take hmem)) hlength)
    rwa [← List.append_assoc, List.take_append_drop] at hcut
  have hstops : Stops (last.take (maxRequestLine + 1)) := .inr (by omega)
  have hself := hlines []
  rw [List.append_nil] at hself
  rw [serve, serve, hlines, hself, serveLines_of_stops handle state hstops,
    serveLines_of_stops handle state hstops]

theorem serve_append_newline (hne : last ≠ []) (hunended : newline ∉ last)
    (h : last.length = maxRequestLine → ¬IsText last) :
    serve handle state (last ++ [newline]) = serve handle state last := by
  rcases Nat.lt_trichotomy last.length maxRequestLine with hlt | heq | hgt
  · obtain ⟨hself, hended⟩ := lines_unended hne hunended hlt.le
    rw [serve, serve, hself, hended, serveLines_append_newline handle state hlt]
  · obtain ⟨hself, hended⟩ := lines_unended hne hunended heq.le
    rw [serve, serve, hself, hended, serveLines_of_not_isText handle state (h heq),
      serveLines_of_not_isText handle state (mt isText_append_newline.1 (h heq))]
  · exact serve_append_of_overlong handle state hunended hgt [newline]

/-- At the limit the newline is one octet too many. -/
theorem serve_append_newline_of_full (hunended : newline ∉ last)
    (h : last.length = maxRequestLine) (htext : IsText last) :
    serve handle state (last ++ [newline]) = ([tooLong], state) := by
  have hended := (IsCut.ended hunended h.le .nil).eq_lines
  have hstops : Stops (last ++ [newline]) := .inr (by simp [h])
  rw [serve, ← hended, serveLines_of_stops handle state hstops,
    if_pos (isText_iff.1 (isText_append_newline.2 htext))]

/-- Without the newline the line is blank, or gets an answer. -/
theorem serve_of_full (hne : last ≠ []) (hunended : newline ∉ last)
    (h : last.length = maxRequestLine) (htext : IsText last) :
    (serve handle state last).1 = [] ∨
      (serve handle state last).1 = [answer handle state last] := by
  have hstops : ¬Stops last := by
    rw [stops_iff]
    exact fun hs => hs.elim (absurd htext) (by omega)
  rw [serve, (lines_unended hne hunended h.le).1]
  cases hblank : isBlank last with
  | true =>
    rw [serveLines_of_isBlank handle state hstops hblank]
    exact .inl rfl
  | false =>
    rw [serveLines_of_asking handle state hstops hblank]
    exact .inr rfl

/-! ### Whole inputs -/

variable {before : List UInt8}

theorem lines_append_of_starts (h : before = [] ∨ before.getLast? = some newline)
    (tail : List UInt8) : lines (before ++ tail) = lines before ++ lines tail := by
  rcases h with rfl | h
  · rw [lines_nil, List.nil_append, List.nil_append]
  · exact lines_append tail h

/-- Complete lines without a stop are served before what follows them. -/
theorem serve_append_of_served (h : before = [] ∨ before.getLast? = some newline)
    (hserved : ∀ line ∈ lines before, ¬Stops line) (tail : List UInt8) :
    serve handle state (before ++ tail) =
      ((serve handle state before).1 ++ (serve handle (serve handle state before).2 tail).1,
        (serve handle (serve handle state before).2 tail).2) := by
  rw [serve, lines_append_of_starts h, serveLines_append handle state hserved]
  rfl

/-- Nothing follows on a stop. -/
theorem serve_append_of_stops (h : before = [] ∨ before.getLast? = some newline)
    {stop : List UInt8} (hmem : stop ∈ lines before) (hstop : Stops stop) (tail : List UInt8) :
    serve handle state (before ++ tail) = serve handle state before := by
  obtain ⟨front, back, hlines⟩ := List.append_of_mem hmem
  rw [serve, serve, lines_append_of_starts h, hlines, List.append_assoc, List.cons_append,
    serveLines_stop handle state front hstop, serveLines_stop handle state front hstop back]

end

/-- An input that does not end in a newline has a last line without one. -/
theorem exists_last_line {input : List UInt8} (hne : input ≠ [])
    (hend : input.getLast? ≠ some newline) :
    ∃ before last, input = before ++ last ∧ (before = [] ∨ before.getLast? = some newline) ∧
      newline ∉ last ∧ last ≠ [] := by
  by_cases h : newline ∈ input
  · obtain ⟨last, before, hinput, hunended⟩ :=
      List.eq_append_cons_of_mem (List.mem_reverse.2 h)
    have hinput' : input = (before.reverse ++ [newline]) ++ last.reverse := by
      rw [← List.reverse_reverse input, hinput]
      simp
    refine ⟨before.reverse ++ [newline], last.reverse, hinput', .inr (by simp),
      fun hmem => hunended (List.mem_reverse.1 hmem), ?_⟩
    intro hnil
    rw [hinput', hnil] at hend
    simp at hend
  · exact ⟨[], input, rfl, .inl rfl, h, hne⟩

/-! ### What the client sees -/

theorem error_ne_tooLong {message : String} (h : message.toList.head? ≠ some 'r') :
    Response.error message ≠ tooLong := by
  intro heq
  apply h
  rw [Response.error.inj heq]
  exact head_append (head_append rfl _) _

/-- Only the connection itself complains about the length of a line. -/
theorem handle_ne_tooLong (s : Service) (request : Request) (site : Site) :
    (s.handle request site).1 ≠ tooLong := by
  cases request with
  | start params =>
    unfold Service.handle
    dsimp only
    split
    · exact Response.noConfusion
    · rename_i e _ _
      apply error_ne_tooLong
      rcases e.head_message with h | h | h <;> rw [h] <;> decide
  | getResult =>
    unfold Service.handle
    dsimp only
    cases s.getResult site <;> exact Response.noConfusion
  | _ => exact Response.noConfusion

theorem answer_ne_tooLong (s : Service) (site : Site) (line : List UInt8) :
    answer s.handle site line ≠ tooLong := by
  unfold answer
  cases Request.parse? line with
  | some request => exact handle_ne_tooLong s request site
  | none =>
    have hhead : (s!"invalid request: {Fault.json.text}").toList.head? = some 'i' :=
      head_append rfl _
    apply error_ne_tooLong
    rw [hhead]
    decide

theorem finite_answer (s : Service) (site : Site) (line : List UInt8) :
    (answer s.handle site line).Finite := by
  unfold answer
  cases Request.parse? line with
  | some request => exact Client.finite_handle s request site
  | none => trivial

theorem written_append (first second : List Response) :
    written (first ++ second) = written first ++ written second :=
  List.flatMap_append

/-- The same lines come back for two inputs, and the service is left in the same state. -/
structure SameOutcome (s : Service) (site : Site) (first second : List UInt8) : Prop where
  lines : written (serve s.handle site first).1 = written (serve s.handle site second).1
  state : (serve s.handle site first).2 = (serve s.handle site second).2

/-- An input in which everything before the last line is worked through, and the last line has no
newline and is as long as a line may be. -/
structure FillsLimit (before last : List UInt8) : Prop where
  starts : before = [] ∨ before.getLast? = some newline
  served : ∀ line ∈ lines before, ¬Stops line
  unended : newline ∉ last
  full : last.length = maxRequestLine
  text : IsText last

section
variable {before last : List UInt8} (s : Service) (site : Site)

/-- With its newline the line is refused. -/
theorem FillsLimit.serve_ended (h : FillsLimit before last) :
    serve s.handle site (before ++ last ++ [newline]) =
      ((serve s.handle site before).1 ++ [tooLong], (serve s.handle site before).2) := by
  rw [List.append_assoc, serve_append_of_served s.handle site h.starts h.served,
    serve_append_newline_of_full s.handle _ h.unended h.full h.text]

/-- Without its newline it is not. -/
theorem FillsLimit.not_sameOutcome (h : FillsLimit before last) :
    ¬SameOutcome s site (before ++ last) (before ++ last ++ [newline]) := by
  have hne : last ≠ [] := List.ne_nil_of_length_eq_add_one h.full
  intro hsame
  have hlines := hsame.lines
  rw [h.serve_ended s site, serve_append_of_served s.handle site h.starts h.served,
    written_append, written_append, List.append_cancel_left_eq] at hlines
  have hrefused : written [tooLong] = lineOf tooLong.json := List.flatMap_singleton ..
  rcases serve_of_full s.handle (serve s.handle site before).2 hne h.unended h.full h.text with
    hnone | hone
  · rw [hnone, hrefused] at hlines
    exact absurd hlines (by simp [written, lineOf])
  · rw [hone, hrefused, written, List.flatMap_singleton] at hlines
    have hparse := Response.parse?_line (finite_answer s (serve s.handle site before).2 last)
    rw [hlines, Response.parse?_line (show tooLong.Finite from trivial)] at hparse
    exact answer_ne_tooLong s _ last (Option.some.inj hparse).symm

end

/-- The letter x as often as a line may have octets. -/
def letters : List UInt8 := List.replicate maxRequestLine 0x78

theorem fillsLimit_letters {before : List UInt8}
    (starts : before = [] ∨ before.getLast? = some newline)
    (served : ∀ line ∈ lines before, ¬Stops line) : FillsLimit before letters where
  starts := starts
  served := served
  unended := fun hmem => absurd (List.eq_of_mem_replicate hmem) (by decide)
  full := List.length_replicate
  text := Utf8.isText_of_lt fun b hb => by
    rw [List.eq_of_mem_replicate hb]
    decide

theorem getLast?_letters : letters.getLast? = some 0x78 := by
  rw [letters, List.getLast?_replicate, if_neg (by decide)]

end Connection
end LoadBench
