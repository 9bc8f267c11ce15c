import LoadBench.Proofs.Binary64.Decimal
import LoadBench.Proofs.Generator.Acceptance

/-!
The percentages on a command line.

Main statement: valid parameters pass each percentage as one decimal with six places, nearest to it
and within its range, and a greater percentage is never passed as a smaller number.
-/
namespace LoadBench

/-- The parameters that are numbers with a fraction. -/
inductive Percentage
  | loss
  | granularity
  deriving DecidableEq

namespace Percentage

/-- The option that passes the percentage on. -/
def option : Percentage → String
  | loss => "--max-loss-pct="
  | granularity => "--search-granularity="

def of (a : Percentage) (p : Parameters) : Binary64 :=
  match a with
  | loss => p.maxLoss
  | granularity => p.granularity

variable {p : Parameters} {macs : Option (List Mac)}

/-- Neither is negative, and only a loss has an upper bound. -/
theorem range_of_validate (h : p.validate = .ok macs) (a : Percentage) :
    (a.of p).isFinite = true ∧ 0 ≤ (a.of p).toRat ∧ (a = loss → (a.of p).toRat ≤ 100) := by
  have hall := p.checked_validate.exists_ok_iff.1 ⟨macs, h⟩
  have hchecks := (List.forall_mem_append.1 hall).1
  simp only [List.forall_mem_cons] at hchecks
  obtain ⟨-, -, -, ⟨hlossFinite, hlossNonneg, hlossLe⟩, ⟨hfinite, hnonneg⟩, -⟩ := hchecks
  cases a with
  | loss => exact ⟨hlossFinite, hlossNonneg, fun _ => hlossLe⟩
  | granularity => exact ⟨hfinite, hnonneg, fun hloss => nomatch hloss⟩

end Percentage

namespace GeneratorCommand
variable {g : GeneratorCommand} {p : Parameters} {macs : Option (List Mac)} {explicit : Bool}

/-- The text behind the option of a percentage, in an argument that is not one of the extra ones. -/
def Passes (g : GeneratorCommand) (p : Parameters) (a : Percentage) (text : String) : Prop :=
  ∃ own, g.argv p = .ok (g.program :: own ++ g.extraArgs) ∧ a.option ++ text ∈ own

theorem options_prefixFree (explicit : Bool) :
    ∀ o ∈ options explicit, ∀ o' ∈ options explicit, o.toList <+: o'.toList → o = o' := by
  decide +revert +kernel

theorem nodup_options (explicit : Bool) : (options explicit).Nodup := by
  decide +revert +kernel

/-- An argument belongs to one option at most, and so does what is behind it. -/
theorem mem_zipWith_options_iff {values : List String} {o value : String}
    (ho : o ∈ options explicit) :
    o ++ value ∈ (options explicit).zipWith (· ++ ·) values ↔
      (o, value) ∈ (options explicit).zip values := by
  rw [← List.map_uncurry_zip_eq_zipWith, List.mem_map]
  constructor
  · rintro ⟨⟨o', value'⟩, hpair, heq⟩
    have ho' : o' ∈ options explicit := (List.of_mem_zip hpair).1
    have hchars : o'.toList ++ value'.toList = o.toList ++ value.toList := by
      simpa using congrArg String.toList heq
    have hoption : o' = o := by
      rcases List.append_eq_append_iff.1 hchars with ⟨rest, hrest, -⟩ | ⟨rest, hrest, -⟩
      · exact options_prefixFree explicit o' ho' o ho ⟨rest, hrest.symm⟩
      · exact (options_prefixFree explicit o ho o' ho' ⟨rest, hrest.symm⟩).symm
    subst hoption
    have hvalue : value' = value := String.toList_inj.1 (List.append_cancel_left hchars)
    rwa [← hvalue]
  · intro hpair
    exact ⟨(o, value), hpair, rfl⟩

theorem option_mem_options (a : Percentage) (explicit : Bool) : a.option ∈ options explicit := by
  cases a <;> cases explicit <;> decide

/-- A percentage has its place among the options. -/
theorem mem_zip_values (g : GeneratorCommand) (p : Parameters) (macs : Option (List Mac))
    (a : Percentage) :
    (a.option, (a.of p).fixedText 6) ∈ (options macs.isSome).zip (g.values p macs) := by
  cases macs <;> cases a <;> simp [options, values, Percentage.option, Percentage.of]

/-- An option stands only once, so it has one value. -/
theorem mem_zip_options_unique {values : List String} {o value value' : String}
    (hlength : values.length = (options explicit).length)
    (h : (o, value) ∈ (options explicit).zip values)
    (h' : (o, value') ∈ (options explicit).zip values) : value = value' := by
  have hkeys : ((options explicit).zip values).map Prod.fst = options explicit :=
    List.map_fst_zip hlength.ge
  have hnodup : (((options explicit).zip values).map Prod.fst).Nodup := by
    rw [hkeys]
    exact nodup_options explicit
  have hpair : (o, value) = (o, value') := List.inj_on_of_nodup_map hnodup h h' rfl
  exact (Prod.mk.inj hpair).2

/-- Valid parameters pass each percentage with six places, and no other text for it. -/
theorem passes_iff (g : GeneratorCommand) (h : p.validate = .ok macs) (a : Percentage)
    {text : String} : g.Passes p a text ↔ text = (a.of p).fixedText 6 := by
  have hargv : g.argv p = .ok (g.arguments p macs) := by
    rw [argv, h]
    rfl
  have hoption := option_mem_options a macs.isSome
  have hplace := g.mem_zip_values p macs a
  rw [arguments_eq] at hargv
  constructor
  · rintro ⟨own, hown, hmem⟩
    rw [hargv, Except.ok.injEq, List.append_cancel_right_eq, List.cons_inj_right] at hown
    rw [← hown, mem_zipWith_options_iff hoption] at hmem
    exact mem_zip_options_unique (g.length_values p macs) hmem hplace
  · rintro rfl
    exact ⟨_, hargv, (mem_zipWith_options_iff hoption).2 hplace⟩

/-- Only valid parameters pass anything. -/
theorem Passes.exists_validate {a : Percentage} {text : String} (h : g.Passes p a text) :
    ∃ macs, p.validate = .ok macs := by
  obtain ⟨own, hargv, -⟩ := h
  obtain ⟨macs, hvalid, -⟩ := exists_validate_of_argv hargv
  exact ⟨macs, hvalid⟩

/-- A percentage of valid parameters is passed as one decimal, nearest to it and within its range.
What any command line passes for a percentage that is not smaller is not smaller either. -/
theorem percentages_faithful (g : GeneratorCommand) (h : p.validate = .ok macs)
    (a : Percentage) :
    (a.of p).isFinite = true ∧ ∃ d : Decimal 6, (∀ text, g.Passes p a text ↔ text = d.text) ∧
      d.IsNearest (a.of p).toRat ∧ 0 ≤ d.value ∧ (a = .loss → d.value ≤ 100) ∧
      ∀ (g' : GeneratorCommand) (p' : Parameters) (b : Percentage) (d' : Decimal 6),
        g'.Passes p' b d'.text → (a.of p).toRat ≤ (b.of p').toRat → d.value ≤ d'.value := by
  obtain ⟨hfinite, hnonneg, hle⟩ := Percentage.range_of_validate h a
  have htext : (a.of p).fixedText 6 = ((a.of p).decimal 6).text :=
    Binary64.fixedText_eq (by decide) _
  refine ⟨hfinite, (a.of p).decimal 6, ?_, Binary64.isNearest_decimal (by decide) _,
    Binary64.value_decimal_nonneg hnonneg, fun hloss => ?_, ?_⟩
  · intro text
    rw [passes_iff g h, htext]
  · exact Binary64.value_decimal_le hnonneg (hle hloss)
  · intro g' p' b d' hpasses hxy
    obtain ⟨macs', h'⟩ := hpasses.exists_validate
    rw [passes_iff g' h', Binary64.fixedText_eq (by decide)] at hpasses
    rw [Decimal.text_injective hpasses]
    exact Binary64.value_decimal_mono hnonneg hxy

/-- A loss of 1/128 lies midway between two decimals with six places, and `0.007812` ends in an even
digit. An extra argument that looks like the option changes nothing. -/
theorem percentages_faithful_midpoint :
    let p : Parameters := { maxLoss := ⟨0x3F80000000000000⟩ }
    let g : GeneratorCommand := ⟨"bench", "trex", ["--max-loss-pct=1"]⟩
    p.validate = .ok none ∧ p.maxLoss.toRat = 1 / 128 ∧ p.granularity.toRat = 5 ∧
      ∃ d : Decimal 6, d.text = "0.007812" ∧ (∀ text, g.Passes p .loss text ↔ text = d.text) ∧
        d.IsNearest (1 / 128) ∧ 0 ≤ d.value ∧ d.value ≤ 100 ∧
        ∀ d' : Decimal 6, g.Passes p .granularity d'.text → d.value ≤ d'.value := by
  intro p g
  have hvalid : p.validate = .ok none := by decide +kernel
  have hloss : p.maxLoss.toRat = 1 / 128 := by
    have hsignificand : p.maxLoss.significand = 2 ^ 52 := by decide +kernel
    have hexponent : p.maxLoss.exponent = -59 := by decide +kernel
    rw [Binary64.toRat, hsignificand, hexponent, if_neg (by decide)]
    norm_num
  have hgranularity : p.granularity.toRat = 5 := by
    have hsignificand : p.granularity.significand = 5 * 2 ^ 50 := by decide +kernel
    have hexponent : p.granularity.exponent = -50 := by decide +kernel
    rw [Binary64.toRat, hsignificand, hexponent, if_neg (by decide +kernel)]
    norm_num
  obtain ⟨-, d, hpasses, hnearest, hnonneg, hle, hmono⟩ := g.percentages_faithful hvalid .loss
  have htext : d.text = p.maxLoss.fixedText 6 := (passes_iff g hvalid .loss).1 ((hpasses _).2 rfl)
  have hfixed : p.maxLoss.fixedText 6 = "0.007812" := by decide +kernel
  have hnearest : d.IsNearest (1 / 128) := hloss ▸ hnearest
  refine ⟨hvalid, hloss, hgranularity, d, htext.trans hfixed, hpasses, hnearest, hnonneg, hle rfl,
    fun d' hd' => hmono g p .granularity d' hd' ?_⟩
  show p.maxLoss.toRat ≤ p.granularity.toRat
  rw [hloss, hgranularity]
  norm_num

end GeneratorCommand
end LoadBench
