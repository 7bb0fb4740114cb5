import PubSub.Pattern

/-! # The language of a pattern

A pattern is read by sets of states. This file says what texts it stands for, without states, and
proves that acceptance decides exactly these.

* **`joined ws`** — the words `ws`, each behind a separator; **`IsPath`** — one or more words with
  separators between.
* **`Atom.Denotes`**, **`Segment.Denotes`** — the texts of an atom and of a segment, and
  **`Pattern.Reads as cs`** — `cs` is a text of the first atom followed by one of the second, and so
  on.
* **`Pattern.reads_cons_iff`** — `Pattern.advance` takes the first character off: a text is read
  from a state exactly if its rest is read from a state that the character leads to.
* **`Pattern.accepts_iff`** — hence a pattern accepts the texts that its atoms read;
  `Pattern.reads_ofSegments_cons` says the same of a list of segments, one segment at a time. -/

namespace PubSub

/-! ## (1) Words with separators -/

/-- The words, each **behind a separator**. -/
def joined (ws : List (List Char)) : List Char := ws.flatMap (separator :: ·)

@[simp] theorem joined_nil : joined [] = [] := rfl

/-- The first word stands behind a separator, and the others after it. -/
@[simp] theorem joined_cons (w : List Char) (ws : List (List Char)) :
    joined (w :: ws) = separator :: (w ++ joined ws) := by
  simp [joined]

/-- A **path**: one or more words with separators between. -/
def IsPath (cs : List Char) : Prop :=
  ∃ w ws, isWord w = true ∧ (∀ v ∈ ws, isWord v = true) ∧ cs = w ++ joined ws

/-- What may remain of a path after its first character: the rest of a word, and more words. -/
def IsPathRest (cs : List Char) : Prop :=
  ∃ w ws, w.all isWordChar = true ∧ (∀ v ∈ ws, isWord v = true) ∧ cs = w ++ joined ws

/-- Nothing may remain of a path: a path may have a single character. -/
theorem isPathRest_nil : IsPathRest [] := ⟨[], [], rfl, by simp, rfl⟩

/-- A path is not empty, since it has a word. -/
theorem not_isPath_nil : ¬IsPath [] := by
  rintro ⟨w, ws, hw, -, heq⟩
  obtain ⟨rfl, -⟩ := List.append_eq_nil_iff.mp heq.symm
  cases hw

/-- A path begins with a character of a word. -/
theorem isPath_cons_iff (c : Char) (cs : List Char) :
    IsPath (c :: cs) ↔ isWordChar c = true ∧ IsPathRest cs := by
  constructor
  · rintro ⟨w, ws, hw, hws, heq⟩
    cases w with
    | nil => cases hw
    | cons d w =>
      rw [isWord_cons, Bool.and_eq_true] at hw
      obtain ⟨rfl, rfl⟩ := List.cons.inj heq
      exact ⟨hw.1, w, ws, hw.2, hws, rfl⟩
  · rintro ⟨hc, w, ws, hw, hws, rfl⟩
    exact ⟨c :: w, ws, by rw [isWord_cons, hc, hw]; rfl, hws, rfl⟩

/-- The rest of a path goes on with its word, or with a separator and another path. -/
theorem isPathRest_cons_iff (c : Char) (cs : List Char) :
    IsPathRest (c :: cs) ↔ isWordChar c = true ∧ IsPathRest cs ∨ c = separator ∧ IsPath cs := by
  constructor
  · rintro ⟨w, ws, hw, hws, heq⟩
    cases w with
    | nil =>
      -- the word is at its end, so the character is the separator of the next one
      cases ws with
      | nil => cases heq
      | cons v ws =>
        rw [List.nil_append, joined_cons] at heq
        obtain ⟨rfl, rfl⟩ := List.cons.inj heq
        exact Or.inr ⟨rfl, v, ws, hws v List.mem_cons_self,
          fun u hu => hws u (List.mem_cons_of_mem v hu), rfl⟩
    | cons d w =>
      rw [List.all_cons, Bool.and_eq_true] at hw
      obtain ⟨rfl, rfl⟩ := List.cons.inj heq
      exact Or.inl ⟨hw.1, w, ws, hw.2, hws, rfl⟩
  · rintro (⟨hc, w, ws, hw, hws, rfl⟩ | ⟨rfl, w, ws, hw, hws, rfl⟩)
    · exact ⟨c :: w, ws, by rw [List.all_cons, hc, hw]; rfl, hws, rfl⟩
    · refine ⟨[], w :: ws, rfl, ?_, by rw [joined_cons]; rfl⟩
      intro v hv
      rcases List.mem_cons.mp hv with rfl | hv
      · exact hw
      · exact hws v hv

/-! ## (2) The texts of atoms and segments -/

/-- The **texts of an atom**. -/
def Atom.Denotes : Atom → List Char → Prop
  | .char c, cs => cs = [c]
  | .word, cs => isWord cs = true
  | .wordRest, cs => cs.all isWordChar = true
  | .path, cs => IsPath cs
  | .pathRest, cs => IsPathRest cs

/-- The **texts of a segment**, without the separator in front. -/
def Segment.Denotes : Segment → List Char → Prop
  | .literal word, cs => cs = word.toList
  | .single, cs => isWord cs = true
  | .multi, cs => IsPath cs

/-- The atoms that admit the empty text. -/
theorem Atom.denotes_nil_iff (a : Atom) : a.Denotes [] ↔ a.isRest = true := by
  cases a with
  | char c => simp [Denotes, isRest]
  | word => simp [Denotes, isRest]
  | wordRest => simp [Denotes, isRest]
  | path => simp [Denotes, isRest, not_isPath_nil]
  | pathRest => simp [Denotes, isRest, isPathRest_nil]

namespace Pattern

/-- **Reading**: the text is one of the first atom, followed by one of the second, and so on. -/
def Reads : List Atom → List Char → Prop
  | [], cs => cs = []
  | a :: as, cs => ∃ us vs, cs = us ++ vs ∧ a.Denotes us ∧ Reads as vs

/-- The empty text is read where nothing more has to be read. -/
theorem reads_nil_iff (as : List Atom) : Reads as [] ↔ isFinal as = true := by
  induction as with
  | nil => simp [Reads, isFinal]
  | cons a as ih =>
    rw [isFinal, List.all_cons, Bool.and_eq_true, ← Atom.denotes_nil_iff]
    constructor
    · rintro ⟨us, vs, heq, ha, has⟩
      obtain ⟨rfl, rfl⟩ := List.append_eq_nil_iff.mp heq.symm
      exact ⟨ha, ih.mp has⟩
    · rintro ⟨ha, has⟩
      exact ⟨[], [], rfl, ha, ih.mpr has⟩

/-- The first atom reads nothing, or the first character and more. -/
theorem reads_cons_cons_iff (a : Atom) (as : List Atom) (c : Char) (cs : List Char) :
    Reads (a :: as) (c :: cs) ↔
      (a.Denotes [] ∧ Reads as (c :: cs)) ∨
        ∃ us vs, cs = us ++ vs ∧ a.Denotes (c :: us) ∧ Reads as vs := by
  constructor
  · rintro ⟨us, vs, heq, ha, has⟩
    cases us with
    | nil =>
      rw [List.nil_append] at heq
      exact Or.inl ⟨ha, heq ▸ has⟩
    | cons d us =>
      obtain ⟨rfl, rfl⟩ := List.cons.inj heq
      exact Or.inr ⟨us, vs, rfl, ha, has⟩
  · rintro (⟨ha, has⟩ | ⟨us, vs, rfl, ha, has⟩)
    · exact ⟨[], c :: cs, rfl, ha, has⟩
    · exact ⟨c :: us, vs, rfl, ha, has⟩

/-- **Advancing takes the first character off** the texts that are read. -/
theorem reads_cons_iff (as : List Atom) (c : Char) (cs : List Char) :
    Reads as (c :: cs) ↔ ∃ s ∈ advance c as, Reads s cs := by
  induction as with
  | nil => simp [Reads, advance]
  | cons a as ih =>
    rw [reads_cons_cons_iff]
    cases a with
    | char d =>
      by_cases hc : c = d
      · subst hc
        have hrest : (∃ us vs, cs = us ++ vs ∧ us = [] ∧ Reads as vs) ↔ Reads as cs := by
          constructor
          · rintro ⟨us, vs, rfl, rfl, has⟩
            exact has
          · exact fun has => ⟨[], cs, rfl, rfl, has⟩
        simp only [advance, Atom.Denotes, if_true, List.mem_singleton, exists_eq_left, reduceCtorEq,
          false_and, false_or, List.cons.injEq, true_and]
        exact hrest
      · simp [advance, Atom.Denotes, hc]
    | word =>
      by_cases hc : isWordChar c = true
      · simp [advance, Atom.Denotes, Reads, hc]
      · simp [advance, Atom.Denotes, hc]
    | wordRest =>
      -- the word goes on, or it is over and the character belongs to the rest
      rw [ih]
      by_cases hc : isWordChar c = true
      · simp [advance, Atom.Denotes, Reads, hc, or_comm]
      · simp [advance, Atom.Denotes, hc]
    | path =>
      by_cases hc : isWordChar c = true
      · simp [advance, Atom.Denotes, Reads, hc, isPath_cons_iff, not_isPath_nil]
      · simp [advance, Atom.Denotes, hc, isPath_cons_iff, not_isPath_nil]
    | pathRest =>
      -- as for a word, and a separator may begin the next word of the path
      have hrest : (∃ us vs, cs = us ++ vs ∧ IsPathRest (c :: us) ∧ Reads as vs) ↔
          isWordChar c = true ∧ Reads (.pathRest :: as) cs ∨
            c = separator ∧ Reads (.path :: as) cs := by
        constructor
        · rintro ⟨us, vs, rfl, hus, has⟩
          rcases (isPathRest_cons_iff c us).mp hus with ⟨hc, hus⟩ | ⟨hc, hus⟩
          · exact Or.inl ⟨hc, us, vs, rfl, hus, has⟩
          · exact Or.inr ⟨hc, us, vs, rfl, hus, has⟩
        · rintro (⟨hc, us, vs, rfl, hus, has⟩ | ⟨hc, us, vs, rfl, hus, has⟩)
          · exact ⟨us, vs, rfl, (isPathRest_cons_iff c us).mpr (Or.inl ⟨hc, hus⟩), has⟩
          · exact ⟨us, vs, rfl, (isPathRest_cons_iff c us).mpr (Or.inr ⟨hc, hus⟩), has⟩
      rw [ih, Atom.denotes_nil_iff, show (∃ us vs, cs = us ++ vs ∧
        Atom.pathRest.Denotes (c :: us) ∧ Reads as vs) ↔ _ from hrest, advance]
      by_cases hc : isWordChar c = true
      · have hs : c ≠ separator := by
          rintro rfl
          exact absurd hc (by decide)
        simp [Atom.isRest, hc, hs, or_comm]
      · by_cases hs : c = separator
        · subst hs
          simp [Atom.isRest, hc, or_comm]
        · simp [Atom.isRest, hc, hs]

/-- The states reached from some states read what one of them read. -/
theorem any_isFinal_run (states : List (List Atom)) (cs : List Char) :
    (run states cs).any isFinal = true ↔ ∃ s ∈ states, Reads s cs := by
  induction cs generalizing states with
  | nil => simp [run, reads_nil_iff]
  | cons c cs ih =>
    rw [run, List.foldl_cons, ← run, ih]
    simp only [advanceAll, List.mem_eraseDups, List.mem_flatMap, reads_cons_iff]
    constructor
    · rintro ⟨s', ⟨s, hs, hs'⟩, hread⟩
      exact ⟨s, hs, s', hs', hread⟩
    · rintro ⟨s, hs, s', hs', hread⟩
      exact ⟨s', ⟨s, hs, hs'⟩, hread⟩

/-- **Acceptance decides the language**: the accepted texts are those that the atoms read. -/
theorem accepts_iff (p : Pattern) (candidate : String) :
    p.accepts candidate = true ↔ Reads p.atoms candidate.toList := by
  rw [accepts, any_isFinal_run]
  simp

/-! ## (3) The texts of segments -/

/-- Characters that are fixed are read as they are. -/
theorem reads_map_char_append_iff (word : List Char) (as : List Atom) (cs : List Char) :
    Reads (word.map .char ++ as) cs ↔ ∃ vs, cs = word ++ vs ∧ Reads as vs := by
  induction word generalizing cs with
  | nil => simp
  | cons c word ih =>
    constructor
    · rintro ⟨us, vs, rfl, hus, hread⟩
      obtain ⟨rest, rfl, hrest⟩ := (ih vs).mp hread
      rw [show us = [c] from hus]
      exact ⟨rest, rfl, hrest⟩
    · rintro ⟨rest, rfl, hrest⟩
      exact ⟨[c], word ++ rest, rfl, rfl, (ih _).mpr ⟨rest, rfl, hrest⟩⟩

/-- The atoms of a segment read the texts of the segment. -/
theorem reads_atoms_append_iff (s : Segment) (as : List Atom) (cs : List Char) :
    Reads (s.atoms ++ as) cs ↔ ∃ us vs, cs = us ++ vs ∧ s.Denotes us ∧ Reads as vs := by
  cases s with
  | literal word =>
    rw [Segment.atoms, reads_map_char_append_iff]
    constructor
    · rintro ⟨vs, hcs, hread⟩
      exact ⟨word.toList, vs, hcs, rfl, hread⟩
    · rintro ⟨us, vs, hcs, rfl, hread⟩
      exact ⟨vs, hcs, hread⟩
  | single => exact Iff.rfl
  | multi => exact Iff.rfl

/-- The pattern of no segments reads the empty text. -/
theorem reads_ofSegments_nil (cs : List Char) : Reads (ofSegments []).atoms cs ↔ cs = [] := Iff.rfl

/-- **The pattern of segments** reads a separator, a text of the first segment, and what the pattern
of the others reads. -/
theorem reads_ofSegments_cons (s : Segment) (ss : List Segment) (cs : List Char) :
    Reads (ofSegments (s :: ss)).atoms cs ↔
      ∃ us vs, cs = separator :: (us ++ vs) ∧ s.Denotes us ∧ Reads (ofSegments ss).atoms vs := by
  rw [atoms_ofSegments_cons]
  constructor
  · rintro ⟨sep, rest, rfl, hsep, hread⟩
    obtain ⟨us, vs, rfl, hus, hvs⟩ := (reads_atoms_append_iff s _ rest).mp hread
    rw [show sep = [separator] from hsep]
    exact ⟨us, vs, rfl, hus, hvs⟩
  · rintro ⟨us, vs, rfl, hus, hvs⟩
    have hrest := (reads_atoms_append_iff s _ _).mpr ⟨us, vs, rfl, hus, hvs⟩
    exact ⟨[separator], us ++ vs, rfl, rfl, hrest⟩

/-- What the pattern of segments reads is empty or begins with a separator. -/
theorem eq_nil_or_cons_of_reads {ss : List Segment} {cs : List Char}
    (h : Reads (ofSegments ss).atoms cs) : cs = [] ∨ ∃ rest, cs = separator :: rest := by
  cases ss with
  | nil => exact Or.inl h
  | cons s ss =>
    obtain ⟨us, vs, rfl, -, -⟩ := (reads_ofSegments_cons s ss cs).mp h
    exact Or.inr ⟨us ++ vs, rfl⟩

end Pattern

end PubSub
