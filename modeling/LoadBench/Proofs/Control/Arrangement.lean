import LoadBench.Control.Message
import LoadBench.Proofs.Generator.Arrangement
import LoadBench.Proofs.Json.Reading
import Mathlib.Data.List.Permutation

/-!
Requests whose members stand in any order, at every level, and whose parameters are left out where
they have their defaults.

Main statement: every such arrangement, in every spelling, is read as the request. Parameters in
front of the method are held back until the method is known, and a destination until its mode is.
-/
namespace LoadBench

open Json (Tree)

namespace Request

def Finite : Request → Prop
  | .start p => p.Finite
  | _ => True

/-- What stands for the parameters of a request: those of a search, arranged, and an empty object
for the other methods. -/
inductive ParametersArranged : Request → Tree → Prop
  | start {p : Parameters} {params : Tree} (inner : p.IsArrangement params) :
      ParametersArranged (.start p) params
  | plain {r : Request} (hr : r ∈ plain) : ParametersArranged r (.record [])

/-- The method and the parameters of a request in any order, with arranged parameters. -/
inductive IsArrangement (r : Request) : Tree → Prop
  | intro {params : Tree} {ms : List (String × Tree)} (inner : r.ParametersArranged params)
      (order : ms.Perm [("method", .ofText r.method), ("params", params)]) :
      IsArrangement r (.record ms)

section
variable {r : Request} {t params : Tree}

theorem ParametersArranged.isSome_value? (h : r.ParametersArranged params) (hf : r.Finite)
    (levels : Nat) : (params.value? (levels + 3)).isSome = true := by
  cases h with
  | start inner => exact inner.isSome_value? hf levels
  | plain => rfl

theorem ParametersArranged.written (h : r.ParametersArranged params) : params.Written := by
  cases h with
  | start inner => exact inner.written
  | plain => exact Tree.written_record (by simp)

theorem IsArrangement.written (h : r.IsArrangement t) : t.Written := by
  obtain ⟨inner, order⟩ := h
  apply Tree.written_record
  intro m hm
  rcases List.mem_pair.1 (order.mem_iff.1 hm) with rfl | rfl
  · exact Tree.written_ofText _
  · exact inner.written

theorem find?_method_of_mem_plain (hr : r ∈ Request.plain) :
    (Request.plain.find? fun q => q.method == r.method) = some r ∧ r.method ≠ "start" := by
  have hall : ∀ r ∈ Request.plain,
      (Request.plain.find? fun q => q.method == r.method) = some r ∧ r.method ≠ "start" := by decide
  exact hall r hr

/-- The parameters are those of the method, whichever was written first. -/
theorem ParametersArranged.ofJson? (h : r.ParametersArranged params) (hf : r.Finite)
    {contentFirst : Bool}
    (htagged : t.tagged? "method" "params" = some ⟨r.method, some params, contentFirst⟩) :
    Request.ofJson? t = some r := by
  unfold Request.ofJson?
  rw [htagged]
  simp only [Option.bind_eq_bind, Option.bind_some]
  cases h with
  | @start p _ inner =>
    rw [if_pos (show (Request.start p).method = "start" from rfl), inner.ofJson? hf]
    rfl
  | plain hr =>
    obtain ⟨hfind, hstart⟩ := find?_method_of_mem_plain hr
    have hempty : (Tree.record []).record? [] = some fun name => List.lookup name [] :=
      Tree.record?_record (by simp) (by simp)
    rw [if_neg hstart, hfind, hempty]
    rfl

theorem IsArrangement.ofJson? (h : r.IsArrangement t) (hf : r.Finite) :
    Request.ofJson? t = some r := by
  obtain @⟨params, ms, inner, order⟩ := h
  rcases List.perm_pair.1 order with rfl | rfl
  · exact inner.ofJson? hf (Tree.tagged?_record _ _ _ _)
  · have hvalue : (params.value? (Json.maxLevels - 1)).isSome = true :=
      inner.isSome_value? hf (Json.maxLevels - 4)
    exact inner.ofJson? hf (Tree.tagged?_record_of_content_first (by decide) _ hvalue)

end

/-- What is written for a request is one of its arrangements. -/
theorem isArrangement_json (r : Request) : r.IsArrangement r.json := by
  refine .intro ?_ (.refl _)
  cases r with
  | start p => exact .start p.isArrangement_json
  | _ => exact .plain (by decide)

/-- Neither the order of members nor a default that is spelled out makes a difference. Every
arrangement of a request, in every spelling, is read as the request; the written form is one of
them. -/
theorem parse?_arrangement {r : Request} (hf : r.Finite) :
    r.IsArrangement r.json ∧
      ∀ t, r.IsArrangement t → parse? t.print = some r ∧ parse? (lineOf t) = some r ∧
        ∀ text, t.Spelled text → parse? text = some r := by
  refine ⟨r.isArrangement_json, fun t ht => ?_⟩
  have spelled : ∀ text, t.Spelled text → parse? text = some r := by
    intro text htext
    rw [parse?, Tree.parse?_of_spelled htext]
    exact ht.ofJson? hf
  refine ⟨spelled _ ht.written.spelled, ?_, spelled⟩
  rw [parse?, lineOf, Tree.parse?_print_newline ht.written]
  exact ht.ofJson? hf

/-- Parameters in front of the method, addresses in front of the mode, and all defaults left out. -/
theorem parse?_params_first :
    parse? (Tree.record [
      ("params", .record [
        ("destination", .record [("macs", .array [.ofText "a"]), ("mode", .ofText "explicit")]),
        ("num_flows", .ofNat 2)]),
      ("method", .ofText "start")]).print =
      some (.start { numFlows := 2, destination := .explicit ["a"] }) := by
  let p : Parameters := { numFlows := 2, destination := .explicit ["a"] }
  have hf : Finite (.start p) := by constructor <;> decide +kernel
  let destination := Tree.record [("macs", .array [.ofText "a"]), ("mode", .ofText "explicit")]
  let front := (p.members destination).take 3
  let back := ((p.members destination).drop 4).take 4
  have hflows : (("num_flows", Tree.ofNat 2) :: (front ++ back)).Perm
      ((p.members destination).take 8) := List.perm_middle.symm
  have order : ([("destination", destination), ("num_flows", .ofNat 2)] ++ (front ++ back)).Perm
      (p.members destination) :=
    (hflows.cons _).trans (List.perm_append_singleton _ _).symm
  have hparams : p.IsArrangement
      (.record [("destination", destination), ("num_flows", .ofNat 2)]) := by
    refine .intro (.intro (.swap _ _ _)) order ?_
    simp [front, back, p, Parameters.members, Parameters.HasDefault]
  exact ((parse?_arrangement hf).2 _ (.intro (.start hparams) (.swap _ _ _))).1

end Request
end LoadBench
