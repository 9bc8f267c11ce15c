import LoadBench.Proofs.Address.Sequence

/-!
Going through a sequence step by step, with skips, and with copies to go back to.

Main statement: whatever is done with a cursor, it answers as a position in the list of its numbers
does. The position is all that there is to know of it.
-/
namespace LoadBench

/-- A way through a sequence, by what the operations do at a place of it. -/
structure Traversal (σ α : Type) where
  next : σ → Option α × σ
  nth : Nat → σ → Option α × σ
  sizeHint : σ → Nat × Option Nat
  length : σ → Nat
  count : σ → Nat
  last : σ → Option α

namespace Traversal

/-- What can be done on the way through a sequence. Copies are kept in the order in which they were
made. To count what is left, or to take the last of it, uses up a copy that is not kept. -/
inductive Operation
  | next
  | nth (n : Nat)
  | sizeHint
  | length
  | copy
  | restore (i : Nat)
  | count
  | last
  deriving DecidableEq

inductive Answer (α : Type)
  | value (a : Option α)
  | bounds (lower : Nat) (upper : Option Nat)
  | number (n : Nat)
  | done
  deriving DecidableEq

def Answer.map {α β : Type} (f : α → β) : Answer α → Answer β
  | value a => value (a.map f)
  | bounds lower upper => bounds lower upper
  | number n => number n
  | done => done

/-- A place, and the places that were copied. -/
structure Session (σ : Type) where
  current : σ
  copies : List σ := []
  deriving DecidableEq

variable {σ τ α β : Type}

/-- Without a copy of that index nothing is restored. -/
def perform (t : Traversal σ α) (s : Session σ) : Operation → Answer α × Session σ
  | .next => (.value (t.next s.current).1, { s with current := (t.next s.current).2 })
  | .nth n => (.value (t.nth n s.current).1, { s with current := (t.nth n s.current).2 })
  | .sizeHint => (.bounds (t.sizeHint s.current).1 (t.sizeHint s.current).2, s)
  | .length => (.number (t.length s.current), s)
  | .copy => (.done, { s with copies := s.copies ++ [s.current] })
  | .restore i => (.done, { s with current := s.copies.getD i s.current })
  | .count => (.number (t.count s.current), s)
  | .last => (.value (t.last s.current), s)

def run (t : Traversal σ α) (s : Session σ) : List Operation → List (Answer α) × Session σ
  | [] => ([], s)
  | op :: ops =>
    let (answer, s) := t.perform s op
    let (answers, s) := t.run s ops
    (answer :: answers, s)

/-- The last answer of `n + 1` calls. -/
def again (next : σ → Option α × σ) : Nat → σ → Option α × σ
  | 0, s => next s
  | n + 1, s => again next n (next s).2

/-- Positions in a list, up to the one behind its last item. -/
def positions (xs : List α) : Traversal Nat α where
  next p := (xs[p]?, if p < xs.length then p + 1 else p)
  nth := again fun p => (xs[p]?, if p < xs.length then p + 1 else p)
  sizeHint p := (xs.length - p, some (xs.length - p))
  length p := xs.length - p
  count p := xs.length - p
  last p := (xs.drop p).getLast?

/-- At related places both ways give the same answers and lead to related places. -/
structure Simulates (t : Traversal σ α) (u : Traversal τ β) (f : α → β) (R : σ → τ → Prop) :
    Prop where
  next : ∀ {a b}, R a b → (t.next a).1.map f = (u.next b).1 ∧ R (t.next a).2 (u.next b).2
  nth : ∀ {a b}, R a b → ∀ n, (t.nth n a).1.map f = (u.nth n b).1 ∧ R (t.nth n a).2 (u.nth n b).2
  sizeHint : ∀ {a b}, R a b → t.sizeHint a = u.sizeHint b
  length : ∀ {a b}, R a b → t.length a = u.length b
  count : ∀ {a b}, R a b → t.count a = u.count b
  last : ∀ {a b}, R a b → (t.last a).map f = u.last b

/-- Sessions at related places, with related copies. -/
structure Related (R : σ → τ → Prop) (s : Session σ) (r : Session τ) : Prop where
  current : R s.current r.current
  copies : List.Forall₂ R s.copies r.copies

section
variable {t : Traversal σ α} {u : Traversal τ β} {f : α → β} {R : σ → τ → Prop}
  {s : Session σ} {r : Session τ}

theorem Related.getD (h : Related R s r) (i : Nat) :
    R (s.copies.getD i s.current) (r.copies.getD i r.current) := by
  have hcopies := h.copies
  generalize s.copies = as at hcopies
  generalize r.copies = bs at hcopies
  induction hcopies generalizing i with
  | nil => exact h.current
  | cons hab _ ih =>
    cases i with
    | zero => exact hab
    | succ i => exact ih i

theorem Simulates.perform (h : Simulates t u f R) (hs : Related R s r) (op : Operation) :
    (t.perform s op).1.map f = (u.perform r op).1 ∧
      Related R (t.perform s op).2 (u.perform r op).2 := by
  have hcurrent := hs.current
  cases op with
  | next =>
    obtain ⟨hanswer, hplace⟩ := h.next hcurrent
    exact ⟨congrArg Answer.value hanswer, hplace, hs.copies⟩
  | nth n =>
    obtain ⟨hanswer, hplace⟩ := h.nth hcurrent n
    exact ⟨congrArg Answer.value hanswer, hplace, hs.copies⟩
  | sizeHint => simp [Traversal.perform, Answer.map, h.sizeHint hcurrent, hs]
  | length => simp [Traversal.perform, Answer.map, h.length hcurrent, hs]
  | copy => exact ⟨rfl, hcurrent, List.rel_append hs.copies (.cons hcurrent .nil)⟩
  | restore i => exact ⟨rfl, hs.getD i, hs.copies⟩
  | count => simp [Traversal.perform, Answer.map, h.count hcurrent, hs]
  | last => simp [Traversal.perform, Answer.map, h.last hcurrent, hs]

theorem Simulates.run (h : Simulates t u f R) (hs : Related R s r) (ops : List Operation) :
    (t.run s ops).1.map (Answer.map f) = (u.run r ops).1 ∧
      Related R (t.run s ops).2 (u.run r ops).2 := by
  induction ops generalizing s r with
  | nil => exact ⟨rfl, hs⟩
  | cons op ops ih =>
    obtain ⟨hanswer, hstep⟩ := h.perform hs op
    obtain ⟨hanswers, hrest⟩ := ih hstep
    refine ⟨?_, hrest⟩
    simp only [Traversal.run, List.map_cons, hanswer, hanswers]

end

/-- What moves nowhere stays, until a copy is restored. -/
theorem current_run_of_stays {t : Traversal σ α} {a : σ} (hnext : (t.next a).2 = a)
    (hnth : ∀ n, (t.nth n a).2 = a) {s : Session σ} (hs : s.current = a) {ops : List Operation}
    (hops : ∀ i, .restore i ∉ ops) : (t.run s ops).2.current = a := by
  induction ops generalizing s with
  | nil => exact hs
  | cons op ops ih =>
    have hrest : ∀ i, .restore i ∉ ops := fun i hi => hops i (List.mem_cons_of_mem op hi)
    have hstep : (t.perform s op).2.current = a := by
      cases op with
      | restore i => exact absurd List.mem_cons_self (hops i)
      | next => simpa [perform, hs] using hnext
      | nth n => simpa [perform, hs] using hnth n
      | _ => exact hs
    exact ih hstep hrest

end Traversal

theorem Address.toNat_injective {k : AddressKind} : Function.Injective (toNat (k := k)) :=
  fun _ _ => ext_toNat

namespace Cursor

open Traversal (Operation Answer Session)

variable {k : AddressKind} {c : Cursor k} {numbers : List Nat} {p : Nat}

def traversal : Traversal (Cursor k) (Address k) where
  next := advance
  nth n c := c.nth n
  sizeHint := sizeHint
  length := length
  count := count
  last := last?

@[simp] theorem length_toList (c : Cursor k) : c.toList.length = c.remaining :=
  AddressRange.length_sequence c.next c.remaining

theorem last?_eq (c : Cursor k) : c.last? = c.toList.getLast? := by
  unfold last? toList
  split
  · simp [AddressRange.sequence, *]
  · have hlast : c.remaining - 1 < c.remaining := by omega
    rw [List.getLast?_eq_getElem?, AddressRange.length_sequence]
    simp [AddressRange.sequence, hlast]

theorem skip_succ (c : Cursor k) (n : Nat) : c.skip (n + 1) = c.advance.2.skip n := by
  unfold advance
  split
  · simp [skip, *]
  · obtain ⟨m, hm⟩ := Nat.exists_eq_succ_of_ne_zero ‹_›
    have hmin : min (n + 1) (m + 1) = 1 + min n m := by omega
    simp only [skip, hm, Nat.succ_eq_add_one, hmin, Nat.add_sub_cancel, Address.succ,
      Address.add_add, mk.injEq, true_and]
    omega

/-- Skipping is taking one address after the other and keeping the last answer. -/
theorem nth_eq_again (c : Cursor k) (n : Nat) : c.nth n = Traversal.again advance n c := by
  induction n generalizing c with
  | zero => simp [nth, skip, Traversal.again]
  | succ n ih =>
    rw [nth, skip_succ, Traversal.again]
    exact ih c.advance.2

/-- The numbers still to come are those of a list from a position on. -/
structure IsAt (numbers : List Nat) (c : Cursor k) (p : Nat) : Prop where
  le : p ≤ numbers.length
  rest : c.toList.map Address.toNat = numbers.drop p

theorem IsAt.remaining (h : c.IsAt numbers p) : c.remaining = numbers.length - p := by
  have hlength := congrArg List.length h.rest
  simpa using hlength

theorem IsAt.advance (h : c.IsAt numbers p) :
    c.advance.1.map Address.toNat = ((Traversal.positions numbers).next p).1 ∧
      c.advance.2.IsAt numbers ((Traversal.positions numbers).next p).2 := by
  have hanswer : c.advance.1.map Address.toNat = numbers[p]? := by
    rw [advance_fst, ← List.head?_map, h.rest, List.head?_drop]
  have hrest : c.advance.2.toList.map Address.toNat = numbers.drop (p + 1) := by
    rw [advance_snd, List.map_tail, h.rest, List.tail_drop]
  refine ⟨hanswer, ?_⟩
  unfold Traversal.positions
  dsimp only
  by_cases hp : p < numbers.length
  · rw [if_pos hp]
    exact ⟨hp, hrest⟩
  · have hend : numbers.drop p = numbers.drop (p + 1) := by
      rw [List.drop_of_length_le (by omega), List.drop_of_length_le (by omega)]
    rw [if_neg hp]
    exact ⟨h.le, hrest.trans hend.symm⟩

theorem IsAt.again (h : c.IsAt numbers p) (n : Nat) :
    (Traversal.again Cursor.advance n c).1.map Address.toNat =
        ((Traversal.positions numbers).nth n p).1 ∧
      (Traversal.again Cursor.advance n c).2.IsAt numbers
        ((Traversal.positions numbers).nth n p).2 := by
  induction n generalizing c p with
  | zero => exact h.advance
  | succ n ih => exact ih h.advance.2

theorem simulates_positions (numbers : List Nat) :
    (traversal (k := k)).Simulates (Traversal.positions numbers) Address.toNat
      (IsAt numbers) where
  next h := h.advance
  nth h n := by
    have hnth := h.again n
    rwa [← nth_eq_again] at hnth
  sizeHint h := by simp [traversal, Traversal.positions, sizeHint, h.remaining]
  length h := by simp [traversal, Traversal.positions, length, sizeHint, h.remaining]
  count h := by simp [traversal, Traversal.positions, count, h.remaining]
  last h := by
    show Option.map Address.toNat (last? _) = _
    rw [last?_eq, ← List.getLast?_map, h.rest]
    rfl

theorem IsAt.yields_iff (h : c.IsAt numbers p) {as : List (Address k)} :
    c.Yields as ↔ as.map Address.toNat = numbers.drop p := by
  rw [Cursor.yields_iff, ← h.rest]
  exact (List.map_injective_iff.2 Address.toNat_injective).eq_iff.symm

theorem advance_of_exhausted (h : c.remaining = 0) : c.advance = (none, c) := if_pos h

theorem nth_of_exhausted (h : c.remaining = 0) (n : Nat) : c.nth n = (none, c) := by
  induction n with
  | zero => rw [nth_eq_again, Traversal.again, advance_of_exhausted h]
  | succ n ih =>
    rw [nth_eq_again] at ih ⊢
    rw [Traversal.again, advance_of_exhausted h, ih]

/-- Past the end there is no way on. -/
theorem current_run_of_exhausted {s : Session (Cursor k)} (h : s.current.remaining = 0)
    {ops : List Operation} (hops : ∀ i, .restore i ∉ ops) :
    (traversal.run s ops).2.current = s.current := by
  have hnext : (traversal.next s.current).2 = s.current :=
    congrArg Prod.snd (advance_of_exhausted h)
  have hnth : ∀ n, (traversal.nth n s.current).2 = s.current :=
    fun n => congrArg Prod.snd (nth_of_exhausted h n)
  exact Traversal.current_run_of_stays hnext hnth rfl hops

/-- Every run of operations gives the answers of a position in the list of numbers, which are those
from the base on modulo the number of addresses. What a cursor still yields are the numbers from its
position on, a skip is as many single steps, and past the end it stays until a copy is restored. -/
theorem follows_positions (base : Address k) (count : Nat) (ops : List Operation) :
    let numbers := (List.range count).map fun i => (base.toNat + i) % Nat.pow 2 k.width
    let (answers, s) := traversal.run ⟨start base count, []⟩ ops
    let (expected, r) := (Traversal.positions numbers).run ⟨0, []⟩ ops
    answers.map (Answer.map Address.toNat) = expected ∧ r.current ≤ count ∧
      (∀ as, s.current.Yields as ↔ as.map Address.toNat = numbers.drop r.current) ∧
      (∀ n, s.current.nth n = Traversal.again advance n s.current) ∧
      (r.current = count → ∀ later, (∀ i, .restore i ∉ later) →
        (traversal.run s later).2.current.advance = (none, s.current)) := by
  intro numbers
  have hstart : (start base count).IsAt numbers 0 := by
    refine ⟨Nat.zero_le _, ?_⟩
    rw [toList_start, AddressRange.toNat_sequence]
    rfl
  have hlength : numbers.length = count := by simp [numbers]
  obtain ⟨hanswers, hplace⟩ :=
    (simulates_positions (k := k) numbers).run (s := ⟨start base count, []⟩) (r := ⟨0, []⟩)
      ⟨hstart, .nil⟩ ops
  have hcurrent := hplace.current
  refine ⟨hanswers, hlength ▸ hcurrent.le, fun as => hcurrent.yields_iff, nth_eq_again _, ?_⟩
  intro hend later hlater
  have hnone : (traversal.run ⟨start base count, []⟩ ops).2.current.remaining = 0 := by
    rw [hcurrent.remaining, hend, hlength, Nat.sub_self]
  rw [current_run_of_exhausted hnone hlater]
  exact advance_of_exhausted hnone

/-- Ports that go round, a copy to go back to, and what is past the end. -/
theorem follows_positions_round :
    let s : Session (Cursor .port) := ⟨start (.ofNat 65535) 3, []⟩
    let ops : List Operation :=
      [.next, .copy, .nth 5, .next, .restore 0, .last, .nth 0, .count, .next, .sizeHint]
    let later : List Operation := [.nth 2, .copy, .last, .next]
    (traversal.run s ops).1.map (Answer.map Address.toNat) =
        [.value (some 65535), .done, .value none, .value none, .done, .value (some 1),
          .value (some 0), .number 1, .value (some 1), .bounds 0 (some 0)] ∧
      (∀ i, .restore i ∉ later) ∧
      (traversal.run (traversal.run s ops).2 later).2.current.advance.1 = none := by
  intro s ops later
  obtain ⟨hanswers, -, -, -, hstays⟩ := follows_positions (.ofNat 65535 : Port) 3 ops
  have hlater : ∀ i, .restore i ∉ later := by simp [later]
  exact ⟨hanswers.trans (by decide), hlater, congrArg Prod.fst (hstays (by decide) later hlater)⟩

end Cursor
end LoadBench
