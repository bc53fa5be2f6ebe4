import Mathlib.Data.List.TakeWhile
import LedgerFeed.Characters.Blank

namespace LedgerFeed

section
variable {mark : Char}

def beforeFirst (mark : Char) (text : List Char) : List Char := text.takeWhile (· ≠ mark)

def afterFirst? (mark : Char) (text : List Char) : Option (List Char) :=
  (text.dropWhile (· ≠ mark)).tail?

def afterLast (mark : Char) (text : List Char) : List Char := (beforeFirst mark text.reverse).reverse

def beforeLast? (mark : Char) (text : List Char) : Option (List Char) :=
  (afterFirst? mark text.reverse).map List.reverse

theorem forall_ne {text : List Char} (h : mark ∉ text) : ∀ c ∈ text, decide (c ≠ mark) = true := by
  intro c hc
  rw [decide_eq_true_eq]
  rintro rfl
  exact h hc

theorem beforeFirst_append {before : List Char} (h : mark ∉ before) (after : List Char) :
    beforeFirst mark (before ++ mark :: after) = before := by
  rw [beforeFirst, List.takeWhile_append_of_pos (forall_ne h)]
  simp

theorem afterFirst_append {before : List Char} (h : mark ∉ before) (after : List Char) :
    afterFirst? mark (before ++ mark :: after) = some after := by
  rw [afterFirst?, List.dropWhile_append_of_pos (forall_ne h)]
  simp

theorem beforeFirst_none {text : List Char} (h : mark ∉ text) : beforeFirst mark text = text :=
  List.takeWhile_eq_self_iff.mpr (forall_ne h)

theorem afterFirst_none {text : List Char} (h : mark ∉ text) : afterFirst? mark text = none := by
  rw [afterFirst?, List.dropWhile_eq_nil_iff.mpr (forall_ne h)]
  rfl

theorem not_mem_beforeFirst (mark : Char) (text : List Char) : mark ∉ beforeFirst mark text := by
  intro h
  have := List.mem_takeWhile_imp h
  simp at this

theorem beforeFirst_subset (mark : Char) (text : List Char) : beforeFirst mark text ⊆ text :=
  (List.takeWhile_prefix _).subset

theorem afterFirst_eq_some {text after : List Char} (h : afterFirst? mark text = some after) :
    text = beforeFirst mark text ++ mark :: after := by
  induction text with
  | nil => cases h
  | cons c rest ih =>
      by_cases same : c = mark
      · simp only [afterFirst?, same, ne_eq, not_true_eq_false, decide_false, Bool.false_eq_true,
          not_false_eq_true, List.dropWhile_cons_of_neg, List.tail?_cons, Option.some.injEq] at h
        simp [beforeFirst, same, h]
      · have later : afterFirst? mark rest = some after := by simpa [afterFirst?, same] using h
        have first : beforeFirst mark (c :: rest) = c :: beforeFirst mark rest := by
          simp [beforeFirst, same]
        rw [first, List.cons_append, ← ih later]

theorem beforeLast_append {after : List Char} (h : mark ∉ after) (before : List Char) :
    beforeLast? mark (before ++ mark :: after) = some before := by
  have last : mark ∉ after.reverse := by simpa using h
  rw [beforeLast?, List.reverse_append, List.reverse_cons, List.append_assoc, List.singleton_append,
    afterFirst_append last]
  simp

theorem afterLast_append {after : List Char} (h : mark ∉ after) (before : List Char) :
    afterLast mark (before ++ mark :: after) = after := by
  have last : mark ∉ after.reverse := by simpa using h
  rw [afterLast, List.reverse_append, List.reverse_cons, List.append_assoc, List.singleton_append,
    beforeFirst_append last]
  simp

theorem beforeLast_none {text : List Char} (h : mark ∉ text) : beforeLast? mark text = none := by
  rw [beforeLast?, afterFirst_none (by simpa using h)]
  rfl

theorem afterLast_none {text : List Char} (h : mark ∉ text) : afterLast mark text = text := by
  rw [afterLast, beforeFirst_none (by simpa using h), List.reverse_reverse]

theorem not_mem_afterLast (mark : Char) (text : List Char) : mark ∉ afterLast mark text := by
  simpa [afterLast] using not_mem_beforeFirst mark text.reverse

theorem afterLast_subset (mark : Char) (text : List Char) : afterLast mark text ⊆ text := by
  intro c hc
  have front : c ∈ beforeFirst mark text.reverse := by simpa [afterLast] using hc
  simpa using beforeFirst_subset mark _ front

theorem beforeLast_eq_some {text before : List Char} (h : beforeLast? mark text = some before) :
    ∃ after, text = before ++ mark :: after := by
  obtain ⟨rest, hrest, rfl⟩ := Option.map_eq_some_iff.mp h
  have split := congrArg List.reverse (afterFirst_eq_some hrest)
  rw [List.reverse_reverse] at split
  exact ⟨(beforeFirst mark text.reverse).reverse, by simpa using split⟩

end

inductive IsPart {α : Type} (mark : α) : List α → List α → Prop
  | only {part : List α} (clear : mark ∉ part) : IsPart mark part part
  | first {part : List α} (clear : mark ∉ part) (rest : List α) :
      IsPart mark (part ++ mark :: rest) part
  | later (before : List α) {rest part : List α} (among : IsPart mark rest part) :
      IsPart mark (before ++ mark :: rest) part

variable {α : Type} [DecidableEq α] {mark : α}

theorem splitAt_cons_ne {c : α} (h : c ≠ mark) (text : List α) :
    ∃ part parts, splitAt mark text = part :: parts ∧
      splitAt mark (c :: text) = (c :: part) :: parts := by
  have nonempty : splitAt mark text ≠ [] := by fun_cases splitAt mark text <;> simp
  obtain ⟨part, parts, split⟩ := List.exists_cons_of_ne_nil nonempty
  exact ⟨part, parts, split, by rw [splitAt, if_neg h, split]⟩

theorem splitAt_append (before rest : List α) :
    splitAt mark (before ++ mark :: rest) = splitAt mark before ++ splitAt mark rest := by
  induction before with
  | nil => simp [splitAt]
  | cons c before ih =>
      by_cases same : c = mark
      · rw [List.cons_append, splitAt, if_pos same, ih, splitAt, if_pos same, List.cons_append]
      · obtain ⟨part, parts, split, longer⟩ := splitAt_cons_ne same before
        rw [List.cons_append, longer, splitAt, if_neg same, ih, split]
        rfl

theorem splitAt_clear {part : List α} (h : mark ∉ part) : splitAt mark part = [part] := by
  induction part with
  | nil => rfl
  | cons c part ih =>
      rw [List.mem_cons, not_or] at h
      rw [splitAt, if_neg (Ne.symm h.1), ih h.2]

theorem isPart_of_mem {text part : List α} (h : part ∈ splitAt mark text) :
    IsPart mark text part := by
  -- On the length of the text: what follows the first mark is split in its turn.
  induction size : text.length using Nat.strongRecOn generalizing text with
  | ind bound ih =>
      by_cases marked : mark ∈ text
      · obtain ⟨before, rest, rfl, clear⟩ := List.eq_append_cons_of_mem marked
        rw [splitAt_append, splitAt_clear clear, List.singleton_append, List.mem_cons] at h
        rcases h with rfl | among
        · exact .first clear rest
        · have shorter : rest.length < bound := by
            rw [← size, List.length_append, List.length_cons]
            omega
          exact .later before (ih rest.length shorter among rfl)
      · rw [splitAt_clear marked, List.mem_singleton] at h
        subst h
        exact .only marked

theorem mem_splitAt {text part : List α} : part ∈ splitAt mark text ↔ IsPart mark text part := by
  refine ⟨isPart_of_mem, fun among => ?_⟩
  induction among with
  | only clear => simp [splitAt_clear clear]
  | first clear rest => simp [splitAt_append, splitAt_clear clear]
  | later before among ih => simp [splitAt_append, ih]

end LedgerFeed
