import LoadBench.Proofs.Control.Conversation
import LoadBench.Proofs.Text.Boundary

/-! Lines that are too long. Such a line is read up to the cap only, and whether it is answered
depends on what the cap cuts: a line whose character is cut in two is none of UTF-8. -/
namespace LoadBench.Connection

open Utf8 (IsText AtBoundary)

/-- An input in UTF-8 leads to a line that is too long: all lines before it are served, and it goes
on to a newline or to the end of the input. -/
structure ReachesOverlong (before content rest : List UInt8) : Prop where
  text : IsText (before ++ content ++ rest)
  starts : before = [] ∨ before.getLast? = some newline
  served : ∀ line ∈ lines before, ¬Stops line
  unended : newline ∉ content
  overlong : maxRequestLine < content.length
  ends : rest = [] ∨ rest.head? = some newline

theorem atBoundary_of_ends {rest : List UInt8} (h : rest = [] ∨ rest.head? = some newline) :
    AtBoundary rest := by
  intro b hb
  rcases h with rfl | h
  · cases hb
  · obtain rfl : newline = b := Option.some.inj (h.symm.trans hb)
    decide

/-- Complete lines of a text are a text. -/
theorem isText_of_getLast? {before rest : List UInt8} (htext : IsText (before ++ rest))
    (h : before.getLast? = some newline) : IsText before := by
  obtain ⟨lines, rfl⟩ := List.getLast?_eq_some_iff.1 h
  rw [List.append_assoc] at htext
  have hlines : IsText lines := htext.left_iff.2 (atBoundary_of_ends (.inr rfl))
  exact hlines.append (Utf8.isText_singleton (by decide))

section
variable {before content rest : List UInt8}

theorem ReachesOverlong.isText_content (h : ReachesOverlong before content rest) :
    IsText content := by
  have htext := h.text
  rw [List.append_assoc] at htext
  have hbefore : IsText before := by
    rcases h.starts with rfl | hlast
    · exact Utf8.isText_nil
    · exact isText_of_getLast? htext hlast
  exact (htext.right hbefore).left_iff.2 (atBoundary_of_ends h.ends)

/-- What is read of the line is in UTF-8 when the cap cuts no character in two. -/
theorem ReachesOverlong.isSome_decode?_iff (h : ReachesOverlong before content rest) :
    (Utf8.decode? (content.take (maxRequestLine + 1))).isSome = true ↔
      AtBoundary (content.drop (maxRequestLine + 1)) := by
  have htext := h.isText_content
  rw [← List.take_append_drop (maxRequestLine + 1) content] at htext
  rw [← Utf8.isText_iff, htext.left_iff]

/-- The line is read up to the cap. -/
theorem ReachesOverlong.lines_eq (h : ReachesOverlong before content rest) :
    lines (before ++ content ++ rest) =
      lines before ++ content.take (maxRequestLine + 1) ::
        lines (content.drop (maxRequestLine + 1) ++ rest) := by
  have hlength : (content.take (maxRequestLine + 1)).length = maxRequestLine + 1 := by
    have := h.overlong
    rw [List.length_take]
    omega
  have hunended : newline ∉ content.take (maxRequestLine + 1) :=
    fun hmem => h.unended (List.mem_of_mem_take hmem)
  have hcontent : lines (content ++ rest) = content.take (maxRequestLine + 1) ::
      lines (content.drop (maxRequestLine + 1) ++ rest) := by
    have hcut := lines_append_of_lineLength (content.drop (maxRequestLine + 1) ++ rest)
      (List.ne_nil_of_length_eq_add_one hlength) (lineLength_full _ hunended hlength)
    rwa [← List.append_assoc, List.take_append_drop] at hcut
  rw [List.append_assoc, ← hcontent]
  rcases h.starts with rfl | hlast
  · rw [lines_nil, List.nil_append, List.nil_append]
  · exact lines_append _ hlast

variable {σ : Type} (handle : Request → σ → Response × σ) (state : σ)

/-- Whatever the line gets for an answer, nothing behind it is worked through. -/
theorem ReachesOverlong.serve_eq (h : ReachesOverlong before content rest) :
    serve handle state (before ++ content ++ rest) =
      ((serve handle state before).1 ++
          (if (Utf8.decode? (content.take (maxRequestLine + 1))).isSome then [tooLong] else []),
        (serve handle state before).2) := by
  have hstops : Stops (content.take (maxRequestLine + 1)) := by
    have := h.overlong
    right
    rw [List.length_take]
    omega
  rw [serve, h.lines_eq, serveLines_append handle state h.served]
  dsimp only
  rw [serveLines_of_stops handle _ hstops]
  rfl

end

end LoadBench.Connection
