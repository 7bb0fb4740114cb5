import Mathlib.Data.List.DropRight
import PubSub.Title.Canonical

/-! # Preparing a raw title

`prepare` shrinks the run around the `#`, isolates the wildcards and then trims. This file moves the
trimming of blanks to the front, where every later step acts on the trimmed text.

* **`pieces cs`** — the non-empty pieces between separators, blind to separators at the ends
  (`pieces_trim`).
* **`trim_isolateWildcards`**, **`trim_shrinkRun`** — trimming blanks commutes with both rewritings,
  with the second as long as there is at most one `#`.
* **`prepare_eq`** — hence the prepared text in the new order; `isEmpty_prepare` says when nothing
  is left of it. -/

namespace PubSub

/-! ## (1) Dropping characters at the ends -/

/-- What is left of `a :: l` when its end is dropped: nothing if all of it is, else `a` stays. -/
theorem rdropWhile_cons {α : Type} (p : α → Bool) (a : α) (l : List α) :
    (a :: l).rdropWhile p = if p a && l.all p then [] else a :: l.rdropWhile p := by
  simp only [List.rdropWhile, List.reverse_cons, List.dropWhile_append, List.isEmpty_iff,
    List.dropWhile_eq_nil_iff, List.mem_reverse]
  by_cases hl : ∀ x ∈ l, p x
  · have hall : l.all p = true := List.all_eq_true.mpr hl
    have hnil : l.reverse.dropWhile p = [] := by simpa using hl
    rw [if_pos hl, hall, hnil]
    cases hp : p a <;> simp [hp]
  · have hall : l.all p = false := by simpa using hl
    rw [if_neg hl, hall]
    simp

/-- A first element that is kept shields the start of the list. -/
theorem rdropWhile_cons_of_neg {α : Type} {p : α → Bool} {a : α} (h : p a = false) (l : List α) :
    (a :: l).rdropWhile p = a :: l.rdropWhile p := by
  simp [rdropWhile_cons, h]

/-- Dropping at the end of a text is dropping at the start of its reverse. -/
theorem reverse_rdropWhile {α : Type} (p : α → Bool) (l : List α) :
    (l.rdropWhile p).reverse = l.reverse.dropWhile p := by
  simp [List.rdropWhile]

/-- Trimming drops at the start and then at the end. -/
theorem trim_eq_rdropWhile (p : Char → Bool) (cs : List Char) :
    trim p cs = (cs.dropWhile p).rdropWhile p := rfl

/-- Trimming leaves nothing exactly of a text it drops altogether. -/
theorem trim_eq_nil_iff (p : Char → Bool) (cs : List Char) : trim p cs = [] ↔ cs.all p = true := by
  rw [trim_eq_rdropWhile, List.rdropWhile_eq_nil_iff, ← List.all_eq_true, List.all_eq_true,
    List.all_eq_true]
  constructor
  · intro h c hc
    rw [← List.takeWhile_append_dropWhile (p := p) (l := cs), List.mem_append] at hc
    rcases hc with hc | hc
    · exact List.mem_takeWhile_imp hc
    · exact h c hc
  · intro h c hc
    exact h c (List.dropWhile_subset p hc)

/-- A text without characters to drop stays as it is. -/
theorem trim_eq_self {p : Char → Bool} {cs : List Char} (h : ∀ c ∈ cs, p c = false) :
    trim p cs = cs := by
  have hdrop : ∀ ds : List Char, (∀ c ∈ ds, p c = false) → ds.dropWhile p = ds := by
    intro ds hds
    cases ds with
    | nil => rfl
    | cons d ds => exact List.dropWhile_cons_of_neg (by simp [hds d List.mem_cons_self])
  rw [trim, hdrop cs h, hdrop cs.reverse (by simpa using h), List.reverse_reverse]

/-- Trimming keeps the characters that it does not drop. -/
theorem mem_trim_iff {p : Char → Bool} {c : Char} (h : p c = false) (cs : List Char) :
    c ∈ trim p cs ↔ c ∈ cs := by
  have hdrop : ∀ ds : List Char, c ∈ ds.dropWhile p ↔ c ∈ ds := by
    intro ds
    conv_rhs => rw [← List.takeWhile_append_dropWhile (p := p) (l := ds), List.mem_append]
    constructor
    · exact Or.inr
    · rintro (hc | hc)
      · exact absurd (List.mem_takeWhile_imp hc) (by simp [h])
      · exact hc
  rw [trim, List.mem_reverse, hdrop, List.mem_reverse, hdrop]

/-! ## (2) Pieces between separators -/

/-- The non-empty **pieces** of a text between its separators. -/
def pieces (cs : List Char) : List (List Char) := (cs.splitOn separator).filter (!·.isEmpty)

/-- A separator parts the pieces before it from those behind it. -/
theorem pieces_append_separator (xs ys : List Char) :
    pieces (xs ++ separator :: ys) = pieces xs ++ pieces ys := by
  rw [pieces, List.splitOn_append_cons_self, List.filter_append]
  rfl

@[simp] theorem pieces_nil : pieces [] = [] := rfl

/-- Separators at the start make no piece. -/
theorem pieces_dropWhile (cs : List Char) : pieces (cs.dropWhile (· == separator)) = pieces cs := by
  induction cs with
  | nil => rfl
  | cons c cs ih =>
    by_cases hc : c = separator
    · subst hc
      have hcons := pieces_append_separator [] cs
      rw [List.nil_append, pieces_nil, List.nil_append] at hcons
      rw [List.dropWhile_cons_of_pos (by simp), ih, hcons]
    · rw [List.dropWhile_cons_of_neg (by simpa using hc)]

/-- Separators at the end make no piece. -/
theorem pieces_rdropWhile (cs : List Char) :
    pieces (cs.rdropWhile (· == separator)) = pieces cs := by
  induction cs using List.reverseRecOn with
  | nil => rfl
  | append_singleton cs c ih =>
    by_cases hc : c = separator
    · subst hc
      rw [List.rdropWhile_concat_pos _ _ _ (by simp), ih, pieces_append_separator, pieces_nil,
        List.append_nil]
    · rw [List.rdropWhile_concat_neg _ _ _ (by simpa using hc)]

/-- Trimming separators changes no piece. -/
theorem pieces_trim (cs : List Char) : pieces (trim (· == separator) cs) = pieces cs := by
  rw [trim_eq_rdropWhile, pieces_rdropWhile, pieces_dropWhile]

/-! ## (3) Isolated wildcards -/

/-- A wildcard character, and no other, is put between separators. -/
theorem isolateWildcards_cons (c : Char) (cs : List Char) :
    isolateWildcards (c :: cs) =
      (if c = '#' ∨ c = '+' then [separator, c, separator] else [c]) ++ isolateWildcards cs := by
  simp [isolateWildcards]

/-- Wildcards are isolated in two parts of a text alike. -/
theorem isolateWildcards_append (xs ys : List Char) :
    isolateWildcards (xs ++ ys) = isolateWildcards xs ++ isolateWildcards ys := by
  simp [isolateWildcards]

/-- A character and its two separators read the same from both sides. -/
theorem reverse_isolateWildcards (cs : List Char) :
    (isolateWildcards cs).reverse = isolateWildcards cs.reverse := by
  induction cs with
  | nil => rfl
  | cons c cs ih =>
    rw [isolateWildcards_cons, List.reverse_append, ih, List.reverse_cons, isolateWildcards_append,
      isolateWildcards_cons]
    split <;> simp [isolateWildcards]

/-- Blanks at the start are the same before and after isolating. -/
theorem dropWhile_isolateWildcards (cs : List Char) :
    (isolateWildcards cs).dropWhile isBlank = isolateWildcards (cs.dropWhile isBlank) := by
  induction cs with
  | nil => rfl
  | cons c cs ih =>
    rw [isolateWildcards_cons]
    by_cases hc : c = '#' ∨ c = '+'
    · -- neither a wildcard nor the separator put before it is a blank
      have hb : isBlank c = false := by rcases hc with rfl | rfl <;> decide
      have hs : isBlank separator = false := by decide
      rw [if_pos hc, List.dropWhile_cons_of_neg (by simp [hb]), isolateWildcards_cons, if_pos hc]
      simp [hs]
    · rw [if_neg hc, List.singleton_append]
      by_cases hb : isBlank c
      · rw [List.dropWhile_cons_of_pos hb, List.dropWhile_cons_of_pos hb, ih]
      · rw [List.dropWhile_cons_of_neg hb, List.dropWhile_cons_of_neg hb, isolateWildcards_cons,
          if_neg hc, List.singleton_append]

/-- **Trimming blanks commutes with isolating wildcards.** -/
theorem trim_isolateWildcards (cs : List Char) :
    trim isBlank (isolateWildcards cs) = isolateWildcards (trim isBlank cs) := by
  rw [trim, dropWhile_isolateWildcards, reverse_isolateWildcards, dropWhile_isolateWildcards,
    reverse_isolateWildcards, trim]

/-! ## (4) The run around the `#` -/

/-- A text without `#` has no run to shrink. -/
theorem shrinkRun_of_notMem {cs : List Char} (h : '#' ∉ cs) : shrinkRun cs = cs := by
  have hnil : cs.dropWhile (· != '#') = [] := by
    rw [List.dropWhile_eq_nil_iff]
    intro c hc
    simpa using fun heq : c = '#' => h (heq ▸ hc)
  rw [shrinkRun, hnil]

/-- Around its first `#`, a text loses the run characters on both sides. -/
theorem shrinkRun_append_hash {before : List Char} (h : '#' ∉ before) (after : List Char) :
    shrinkRun (before ++ '#' :: after) =
      before.rdropWhile isRunChar ++ '#' :: after.dropWhile isRunChar := by
  have hall : ∀ c ∈ before, (c != '#') = true := by
    intro c hc
    simpa using fun heq : c = '#' => h (heq ▸ hc)
  rw [shrinkRun, List.dropWhile_append_of_pos hall, List.takeWhile_append_of_pos hall]
  simp [List.rdropWhile]

/-- A text with at most one `#` has none, or parts around it. -/
theorem notMem_or_eq_append_hash {cs : List Char} (h : cs.count '#' ≤ 1) :
    '#' ∉ cs ∨
      ∃ before after, cs = before ++ '#' :: after ∧ '#' ∉ before ∧ '#' ∉ after := by
  by_cases hmem : '#' ∈ cs
  · obtain ⟨before, after, rfl, hbefore⟩ := List.eq_append_cons_of_mem hmem
    refine Or.inr ⟨before, after, rfl, hbefore, ?_⟩
    rw [List.count_append, List.count_cons_self] at h
    exact List.count_eq_zero.mp (by omega)
  · exact Or.inl hmem

/-- Shrinking reads the same from both sides. -/
theorem reverse_shrinkRun {cs : List Char} (h : cs.count '#' ≤ 1) :
    (shrinkRun cs).reverse = shrinkRun cs.reverse := by
  rcases notMem_or_eq_append_hash h with hmem | ⟨before, after, rfl, hbefore, hafter⟩
  · rw [shrinkRun_of_notMem hmem, shrinkRun_of_notMem (by simpa using hmem)]
  · have hafter' : '#' ∉ after.reverse := by simpa using hafter
    rw [shrinkRun_append_hash hbefore, List.reverse_append, List.reverse_cons, List.reverse_append,
      List.reverse_cons, List.append_assoc, List.append_assoc, List.singleton_append,
      List.singleton_append, shrinkRun_append_hash hafter', reverse_rdropWhile,
      List.rdropWhile_reverse]

/-- Blanks in front of a `#` and its run are the same before and after shrinking. -/
theorem dropWhile_rdropWhile_append_hash {before : List Char} (after : List Char) :
    (before.rdropWhile isRunChar ++ '#' :: after).dropWhile isBlank =
      (before.dropWhile isBlank).rdropWhile isRunChar ++ '#' :: after := by
  have hhash : isBlank '#' = false := by decide
  induction before with
  | nil => simp [hhash]
  | cons c before ih =>
    by_cases hb : isBlank c
    · -- a blank ends the run, so the run does not reach back to `c`
      have hrun : isRunChar c = false := by
        simp only [isRunChar, Bool.or_eq_false_iff, beq_eq_false_iff_ne]
        constructor <;> rintro rfl <;> exact absurd hb (by decide)
      rw [rdropWhile_cons_of_neg hrun, List.cons_append, List.dropWhile_cons_of_pos hb,
        List.dropWhile_cons_of_pos hb, ih]
    · -- the text begins with `c`, or with the `#` if the run reaches back to `c`
      rw [List.dropWhile_cons_of_neg hb, rdropWhile_cons]
      split
      · rw [List.nil_append, List.dropWhile_cons_of_neg (by simp [hhash])]
      · rw [List.cons_append, List.dropWhile_cons_of_neg hb]

/-- Blanks at the start are the same before and after shrinking. -/
theorem dropWhile_shrinkRun {cs : List Char} (h : cs.count '#' ≤ 1) :
    (shrinkRun cs).dropWhile isBlank = shrinkRun (cs.dropWhile isBlank) := by
  rcases notMem_or_eq_append_hash h with hmem | ⟨before, after, rfl, hbefore, -⟩
  · rw [shrinkRun_of_notMem hmem, shrinkRun_of_notMem fun hin => hmem (List.dropWhile_subset _ hin)]
  · have hbefore' : '#' ∉ before.dropWhile isBlank := fun hin =>
      hbefore (List.dropWhile_subset _ hin)
    have hdrop : (before ++ '#' :: after).dropWhile isBlank =
        before.dropWhile isBlank ++ '#' :: after := by
      rw [List.dropWhile_append]
      split
      · rename_i hempty
        rw [List.isEmpty_iff.mp hempty, List.dropWhile_cons_of_neg (by decide), List.nil_append]
      · rfl
    rw [shrinkRun_append_hash hbefore, dropWhile_rdropWhile_append_hash, hdrop,
      shrinkRun_append_hash hbefore']

/-- **Trimming blanks commutes with shrinking the run.** -/
theorem trim_shrinkRun {cs : List Char} (h : cs.count '#' ≤ 1) :
    trim isBlank (shrinkRun cs) = shrinkRun (trim isBlank cs) := by
  -- the end is the start of the reverse, so the start is dealt with twice
  have hdrop : (cs.dropWhile isBlank).count '#' ≤ 1 :=
    ((List.dropWhile_sublist _).count_le _).trans h
  have hrev : (cs.dropWhile isBlank).reverse.count '#' ≤ 1 := by rwa [List.count_reverse]
  have hback : ((cs.dropWhile isBlank).reverse.dropWhile isBlank).count '#' ≤ 1 :=
    ((List.dropWhile_sublist _).count_le _).trans hrev
  rw [trim, dropWhile_shrinkRun h, reverse_shrinkRun hdrop, dropWhile_shrinkRun hrev,
    reverse_shrinkRun hback, trim]

/-! ## (5) The prepared text -/

/-- Isolating adds and removes nothing but separators and wildcards stay wildcards. -/
theorem all_isolateWildcards (cs : List Char) :
    (isolateWildcards cs).all (· == separator) = cs.all (· == separator) := by
  induction cs with
  | nil => rfl
  | cons c cs ih =>
    rw [isolateWildcards_cons, List.all_append, ih, List.all_cons]
    split
    · simp
    · simp

/-- Shrinking leaves separators only of a text of separators only. -/
theorem all_shrinkRun {cs : List Char} (h : cs.count '#' ≤ 1) :
    (shrinkRun cs).all (· == separator) = cs.all (· == separator) := by
  have hhash : ('#' == separator) = false := by decide
  rcases notMem_or_eq_append_hash h with hmem | ⟨before, after, rfl, hbefore, -⟩
  · rw [shrinkRun_of_notMem hmem]
  · rw [shrinkRun_append_hash hbefore]
    simp [hhash]

/-- Shrinking keeps a text's having wildcards. -/
theorem wildcard_mem_shrinkRun_iff {cs : List Char} (h : cs.count '#' ≤ 1) :
    '+' ∈ shrinkRun cs ∨ '#' ∈ shrinkRun cs ↔ '+' ∈ cs ∨ '#' ∈ cs := by
  rcases notMem_or_eq_append_hash h with hmem | ⟨before, after, rfl, hbefore, -⟩
  · rw [shrinkRun_of_notMem hmem]
  · rw [shrinkRun_append_hash hbefore]
    simp

/-- The trimming of blanks may come first. -/
theorem prepare_eq {cs : List Char} (h : cs.count '#' ≤ 1) :
    prepare cs = trim (· == separator) (isolateWildcards (shrinkRun (trim isBlank cs))) := by
  rw [prepare, trim_isolateWildcards, trim_shrinkRun h]

/-- Trimming leaves at most as many `#`. -/
theorem count_trim_le {cs : List Char} {n : Nat} (p : Char → Bool) (c : Char) (h : cs.count c ≤ n) :
    (trim p cs).count c ≤ n := by
  have hsub : (trim p cs).count c ≤ (cs.dropWhile p).count c := by
    rw [trim, List.count_reverse, ← List.count_reverse (l := cs.dropWhile p)]
    exact (List.dropWhile_sublist _).count_le _
  exact hsub.trans (((List.dropWhile_sublist _).count_le _).trans h)

/-- Nothing is left to split exactly if the trimmed text holds separators only. -/
theorem isEmpty_prepare {cs : List Char} (h : cs.count '#' ≤ 1) :
    (prepare cs).isEmpty = (trim isBlank cs).all (· == '/') := by
  rw [prepare_eq h, Bool.eq_iff_iff, List.isEmpty_iff, trim_eq_nil_iff, all_isolateWildcards,
    all_shrinkRun (count_trim_le isBlank '#' h)]
  rfl

end PubSub
