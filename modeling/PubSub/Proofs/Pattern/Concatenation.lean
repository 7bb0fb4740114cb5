import PubSub.Proofs.Pattern.Expression
import PubSub.Proofs.Pattern.Language

/-! # Patterns as concatenations

A list of segments stands for a language: each segment contributes a separator and a text of its
own. This file says which, for all texts that a segment may have, and that both the pattern and its
written form are of this language.

* **`words`**, **`paths`**, **`segmentTexts`** — the texts of a segment; **`concatenation`** — those
  of a list of segments.
* **`Expression.mem_language_items`** — an atom is written as expressions whose texts, one after
  the other, are those of the atom.
* **`Pattern.mem_concatenation_iff`** — the concatenation is what the atoms of the segments read.
* **`Pattern.isConcatenation`** — the pattern accepts the concatenation, and is written as it. -/

namespace PubSub

open scoped Computability

/-! ## (1) The languages of segments -/

/-- The **words**. -/
def words : Language Char := {cs | isWord cs = true}

/-- The **paths**: words with separators between them, and at least one. -/
def paths : Language Char :=
  {cs | ∃ ws ≠ [], (∀ w ∈ ws, w ∈ words) ∧ cs = [separator].intercalate ws}

/-- The texts of a segment that is written as `text`. -/
def segmentTexts (text : String) : Language Char :=
  if text = "+" then words else if text = "#" then paths else {text.toList}

/-- The **concatenation** of segments: a separator and a text of the first, a separator and a text
of the second, and so on. -/
def concatenation (texts : List String) : Language Char :=
  (texts.map fun text => {[separator]} * segmentTexts text).prod

/-- Words with separators between them are a word, and the others behind separators. -/
theorem intercalate_cons (w : List Char) (ws : List (List Char)) :
    [separator].intercalate (w :: ws) = w ++ joined ws := by
  induction ws generalizing w with
  | nil => simp [List.intercalate]
  | cons v ws ih =>
    rw [joined_cons, ← ih v]
    simp [List.intercalate]

/-- Paths are words, and more of them behind separators. -/
theorem mem_paths_iff (cs : List Char) : cs ∈ paths ↔ IsPath cs := by
  constructor
  · rintro ⟨ws, hne, hws, rfl⟩
    obtain ⟨w, ws, rfl⟩ := List.exists_cons_of_ne_nil hne
    exact ⟨w, ws, hws w List.mem_cons_self, fun v hv => hws v (List.mem_cons_of_mem w hv),
      intercalate_cons w ws⟩
  · rintro ⟨w, ws, hw, hws, rfl⟩
    exact ⟨w :: ws, List.cons_ne_nil w ws, List.forall_mem_cons.mpr ⟨hw, hws⟩,
      (intercalate_cons w ws).symm⟩

/-- The texts of a segment, from its written form. -/
theorem mem_segmentTexts_iff (text : String) (cs : List Char) :
    cs ∈ segmentTexts text ↔ (Segment.ofText text).Denotes cs := by
  rw [segmentTexts, Segment.ofText]
  split
  · exact Iff.rfl
  · split
    · exact mem_paths_iff cs
    · exact Iff.rfl

/-! ## (2) The languages of expressions -/

/-- The characters of words, in ranges. -/
theorem isWordChar_iff (c : Char) : isWordChar c = true ↔
    ('0' ≤ c ∧ c ≤ '9') ∨ ('a' ≤ c ∧ c ≤ 'z') ∨ ('A' ≤ c ∧ c ≤ 'Z') ∨ c = '_' ∨ c = '-' := by
  have hdigit : c.isDigit = true ↔ '0' ≤ c ∧ c ≤ '9' :=
    Bool.and_eq_true_iff.trans (and_congr decide_eq_true_iff decide_eq_true_iff)
  have hupper : c.isUpper = true ↔ 'A' ≤ c ∧ c ≤ 'Z' := decide_eq_true_iff
  have hlower : c.isLower = true ↔ 'a' ≤ c ∧ c ≤ 'z' :=
    Bool.and_eq_true_iff.trans (and_congr decide_eq_true_iff decide_eq_true_iff)
  have halpha : c.isAlpha = true ↔ c.isUpper = true ∨ c.isLower = true := Bool.or_eq_true_iff
  rw [isWordChar, Bool.or_eq_true, Bool.or_eq_true, Bool.or_eq_true, hdigit, halpha, hupper,
    hlower, beq_iff_eq, beq_iff_eq, or_comm (a := 'A' ≤ c ∧ c ≤ 'Z'), or_assoc, or_assoc, or_assoc]

namespace Expression

/-- A character matches itself only. -/
theorem mem_language_char (c : Char) (cs : List Char) : cs ∈ (char c).language ↔ cs = [c] := by
  constructor
  · rintro ⟨d, rfl, range, hrange, hle, hge⟩
    obtain rfl := List.mem_singleton.mp hrange
    rw [Char.le_antisymm hge hle]
  · rintro rfl
    exact ⟨c, rfl, (c, c), List.mem_singleton_self _, Char.le_refl c, Char.le_refl c⟩

/-- **The class of the characters of words** has these and no others. -/
theorem mem_language_wordChar (cs : List Char) :
    cs ∈ wordChar.language ↔ ∃ c, cs = [c] ∧ isWordChar c = true := by
  refine exists_congr fun c => and_congr_right fun _ => ?_
  have heq (d : Char) : d ≤ c ∧ c ≤ d ↔ c = d :=
    ⟨fun h => Char.le_antisymm h.2 h.1, fun h => h ▸ ⟨Char.le_refl c, Char.le_refl c⟩⟩
  simp only [List.mem_cons, List.not_mem_nil, or_false, exists_eq_or_imp, exists_eq_left]
  rw [isWordChar_iff, heq, heq]

/-- Items that are read one after the other: their texts stand one after the other. -/
theorem language_group (items : List Expression) :
    (group items.reverse).language = (items.map language).prod := by
  rw [group, List.foldl_reverse]
  induction items with
  | nil => rfl
  | cons item items ih =>
    rw [List.foldr_cons, language, ih, List.map_cons, List.prod_cons]

/-- Any number of characters of words: these need not make a word, since there may be none. -/
theorem mem_star_wordChar (cs : List Char) :
    cs ∈ (star wordChar).language ↔ cs.all isWordChar = true := by
  constructor
  · intro h
    obtain ⟨pieces, rfl, hpieces⟩ := Language.mem_kstar.mp h
    rw [List.all_eq_true]
    intro c hc
    obtain ⟨piece, hpiece, hc⟩ := List.mem_flatten.mp hc
    obtain ⟨d, rfl, hd⟩ := (mem_language_wordChar piece).mp (hpieces piece hpiece)
    rwa [List.mem_singleton.mp hc]
  · intro h
    refine Language.mem_kstar.mpr ⟨cs.map ([·]), ?_, ?_⟩
    · rw [← List.flatMap_def, List.flatMap_singleton']
    · intro piece hpiece
      obtain ⟨c, hc, rfl⟩ := List.mem_map.mp hpiece
      exact (mem_language_wordChar [c]).mpr ⟨c, rfl, List.all_eq_true.mp h c hc⟩

/-- **At least one character of words**: these are the words. -/
theorem language_plus_wordChar : (plus wordChar).language = words := by
  ext cs
  refine Language.mem_mul.trans ?_
  constructor
  · rintro ⟨us, hus, vs, hvs, rfl⟩
    obtain ⟨c, rfl, hc⟩ := (mem_language_wordChar us).mp hus
    have hrest := (mem_star_wordChar vs).mp hvs
    show isWord (c :: vs) = true
    rw [isWord_cons, hc, hrest]
    rfl
  · intro h
    have hword : isWord cs = true := h
    cases cs with
    | nil => cases hword
    | cons c cs =>
      rw [isWord_cons, Bool.and_eq_true] at hword
      exact ⟨[c], (mem_language_wordChar _).mpr ⟨c, rfl, hword.1⟩, cs,
        (mem_star_wordChar cs).mpr hword.2, rfl⟩

/-- A group of two items. -/
theorem language_pair (first second : Expression) :
    (group [second, first]).language = first.language * second.language := by
  have hgroup := language_group [first, second]
  rwa [List.map_cons, List.map_singleton, List.prod_cons, List.prod_singleton] at hgroup

/-- The texts of a word and a separator behind it. -/
theorem mem_wordBefore (cs : List Char) :
    cs ∈ (group [char separator, plus wordChar]).language ↔
      ∃ w, isWord w = true ∧ cs = w ++ [separator] := by
  rw [language_pair, language_plus_wordChar, Language.mem_mul]
  constructor
  · rintro ⟨w, hw, us, hus, rfl⟩
    rw [(mem_language_char separator us).mp hus]
    exact ⟨w, hw, rfl⟩
  · rintro ⟨w, hw, rfl⟩
    exact ⟨w, hw, [separator], (mem_language_char separator _).mpr rfl, rfl⟩

/-- The texts of a separator and a word behind it. -/
theorem mem_wordAfter (cs : List Char) :
    cs ∈ (group [plus wordChar, char separator]).language ↔
      ∃ w, isWord w = true ∧ cs = separator :: w := by
  rw [language_pair, language_plus_wordChar, Language.mem_mul]
  constructor
  · rintro ⟨us, hus, w, hw, rfl⟩
    rw [(mem_language_char separator us).mp hus]
    exact ⟨w, hw, rfl⟩
  · rintro ⟨w, hw, rfl⟩
    exact ⟨[separator], (mem_language_char separator _).mpr rfl, w, hw, rfl⟩

/-- **Words with separators behind them, and a word**: these are the paths, since a path is a word,
or a word, a separator and another path. -/
theorem language_path :
    (star (group [char separator, plus wordChar])).language * (plus wordChar).language = paths := by
  -- The equation of paths has only one solution, since no word with a separator is empty.
  refine ((Language.self_eq_mul_add_iff fun hnil => ?_).mp ?_).symm
  · obtain ⟨w, -, heq⟩ := (mem_wordBefore []).mp hnil
    exact List.append_ne_nil_of_right_ne_nil w (List.cons_ne_nil _ _) heq.symm
  · ext cs
    rw [Language.mem_add, Language.mem_mul, mem_paths_iff, language_plus_wordChar]
    constructor
    · rintro ⟨w, ws, hw, hws, rfl⟩
      cases ws with
      | nil => exact Or.inr (by rwa [joined_nil, List.append_nil])
      | cons v ws =>
        obtain ⟨hv, hws⟩ := List.forall_mem_cons.mp hws
        refine Or.inl ⟨w ++ [separator], (mem_wordBefore _).mpr ⟨w, hw, rfl⟩, v ++ joined ws,
          (mem_paths_iff _).mpr ⟨v, ws, hv, hws, rfl⟩, ?_⟩
        rw [joined_cons, List.append_assoc]
        rfl
    · rintro (⟨us, hus, vs, hvs, rfl⟩ | hword)
      · obtain ⟨w, hw, rfl⟩ := (mem_wordBefore us).mp hus
        obtain ⟨v, ws, hv, hws, rfl⟩ := (mem_paths_iff vs).mp hvs
        refine ⟨w, v :: ws, hw, List.forall_mem_cons.mpr ⟨hv, hws⟩, ?_⟩
        rw [joined_cons, List.append_assoc]
        rfl
      · exact ⟨cs, [], hword, nofun, (List.append_nil cs).symm⟩

/-- **Words with separators in front of them**, any number of them, are joined words. -/
theorem mem_star_wordAfter (cs : List Char) :
    cs ∈ (star (group [plus wordChar, char separator])).language ↔
      ∃ ws, (∀ w ∈ ws, isWord w = true) ∧ cs = joined ws := by
  constructor
  · intro h
    obtain ⟨pieces, rfl, hpieces⟩ := Language.mem_kstar.mp h
    clear h
    induction pieces with
    | nil => exact ⟨[], nofun, rfl⟩
    | cons piece pieces ih =>
      obtain ⟨hpiece, hrest⟩ := List.forall_mem_cons.mp hpieces
      obtain ⟨w, hw, rfl⟩ := (mem_wordAfter piece).mp hpiece
      obtain ⟨ws, hws, hjoined⟩ := ih hrest
      refine ⟨w :: ws, List.forall_mem_cons.mpr ⟨hw, hws⟩, ?_⟩
      rw [List.flatten_cons, hjoined, joined_cons, List.cons_append]
  · rintro ⟨ws, hws, rfl⟩
    refine Language.mem_kstar.mpr ⟨ws.map (separator :: ·), List.flatMap_def, ?_⟩
    intro us hus
    obtain ⟨w, hw, rfl⟩ := List.mem_map.mp hus
    exact (mem_wordAfter _).mpr ⟨w, hws w hw, rfl⟩

/-- **An atom is written as its texts.** -/
theorem mem_language_items (a : Atom) (cs : List Char) :
    cs ∈ (a.items.map language).prod ↔ a.Denotes cs := by
  cases a with
  | char c =>
    rw [Atom.items, List.map_singleton, List.prod_singleton]
    exact mem_language_char c cs
  | word =>
    rw [Atom.items, List.map_singleton, List.prod_singleton, language_plus_wordChar]
    exact Iff.rfl
  | wordRest =>
    rw [Atom.items, List.map_singleton, List.prod_singleton]
    exact mem_star_wordChar cs
  | path =>
    rw [Atom.items, List.map_cons, List.map_singleton, List.prod_cons, List.prod_singleton,
      language_path]
    exact mem_paths_iff cs
  | pathRest =>
    rw [Atom.items, List.map_cons, List.map_singleton, List.prod_cons, List.prod_singleton,
      Language.mem_mul]
    constructor
    · rintro ⟨w, hw, us, hus, rfl⟩
      obtain ⟨ws, hws, rfl⟩ := (mem_star_wordAfter us).mp hus
      exact ⟨w, ws, (mem_star_wordChar w).mp hw, hws, rfl⟩
    · rintro ⟨w, ws, hw, hws, rfl⟩
      exact ⟨w, (mem_star_wordChar w).mpr hw, joined ws, (mem_star_wordAfter _).mpr ⟨ws, hws, rfl⟩,
        rfl⟩

end Expression

/-! ## (3) The languages of patterns -/

namespace Pattern

/-- **Atoms are written as what they read**, one after the other. -/
theorem mem_language_flatMap_items (atoms : List Atom) (cs : List Char) :
    cs ∈ ((atoms.flatMap Atom.items).map Expression.language).prod ↔ Reads atoms cs := by
  induction atoms generalizing cs with
  | nil => exact Iff.rfl
  | cons a atoms ih =>
    rw [List.flatMap_cons, List.map_append, List.prod_append, Language.mem_mul]
    constructor
    · rintro ⟨us, hus, vs, hvs, rfl⟩
      exact ⟨us, vs, rfl, (Expression.mem_language_items a us).mp hus, (ih vs).mp hvs⟩
    · rintro ⟨us, vs, rfl, hus, hvs⟩
      exact ⟨us, (Expression.mem_language_items a us).mpr hus, vs, (ih vs).mpr hvs, rfl⟩

/-- **The atoms of segments read the concatenation.** -/
theorem mem_concatenation_iff (texts : List String) (cs : List Char) :
    cs ∈ concatenation texts ↔ Reads (ofSegments (texts.map Segment.ofText)).atoms cs := by
  induction texts generalizing cs with
  | nil => exact Iff.rfl
  | cons text texts ih =>
    rw [concatenation, List.map_cons, List.prod_cons, ← concatenation, mul_assoc, Language.mem_mul]
    refine Iff.trans ?_ (reads_ofSegments_cons _ _ cs).symm
    constructor
    · rintro ⟨sep, hsep, rest, hrest, rfl⟩
      obtain rfl : sep = [separator] := hsep
      obtain ⟨us, hus, vs, hvs, rfl⟩ := Language.mem_mul.mp hrest
      exact ⟨us, vs, rfl, (mem_segmentTexts_iff text us).mp hus, (ih vs).mp hvs⟩
    · rintro ⟨us, vs, rfl, hus, hvs⟩
      exact ⟨[separator], rfl, us ++ vs,
        Language.append_mem_mul ((mem_segmentTexts_iff text us).mpr hus) ((ih vs).mpr hvs), rfl⟩

/-- **The pattern of segments is their concatenation**, whatever the texts of the segments: it
accepts these texts and no others, and it is written as a regular expression that they match. -/
theorem isConcatenation (texts : List String) :
    (∀ candidate, (ofSegments (texts.map Segment.ofText)).accepts candidate = true ↔
        candidate.toList ∈ concatenation texts) ∧
      ∃ e, Expression.ofText (ofSegments (texts.map Segment.ofText)).source = some e ∧
        e.language = concatenation texts := by
  refine ⟨fun candidate => ?_, _, Expression.ofText_source _, Language.ext fun cs => ?_⟩
  · rw [accepts_iff, mem_concatenation_iff]
  · rw [Expression.language_group, mem_language_flatMap_items, mem_concatenation_iff]

/-- Signs and separators of a segment stand for themselves, and no line feed is left over. -/
example : let p := ofSegments (["a.*", "#", "b/c"].map Segment.ofText)
    p.accepts "/a.*/x/b/c/b/c" = true ∧ p.accepts "/a.*/x/b/c\n" = false := by decide

end Pattern

end PubSub
