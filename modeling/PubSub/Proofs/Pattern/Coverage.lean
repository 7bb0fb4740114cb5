import PubSub.Proofs.Pattern.Language
import PubSub.Proofs.Title.Grammar

/-! # Coverage, word by word

A pattern reads characters. On a path of words it does what one would say of it word by word.

* **`Segment.covers ss ws`** — the segments cover the words: a literal its own word, `+` one word,
  and a `#` at the end all words that are left, at least one.
* **`Pattern.reads_joined_iff`** — the pattern of the segments of a title reads the words, each
  behind a separator, exactly if the segments cover them.
* **`Title.accepts_text_iff`** and **`Title.covers_iff_text_eq`** — what this says of the text of a
  title without wildcards: for a title with wildcards its pattern, and for one without them
  equality. -/

namespace PubSub

/-! ## (1) Covering words -/

/-- **Coverage**: whether the segments cover the words, one after the other. -/
def Segment.covers : List Segment → List String → Bool
  | [], ws => ws.isEmpty
  | _ :: _, [] => false
  | .literal word :: ss, w :: ws => word == w && covers ss ws
  | .single :: ss, _ :: ws => covers ss ws
  | .multi :: ss, _ :: _ => ss.isEmpty

/-- Words without wildcards cover themselves only. -/
theorem Segment.covers_iff_map_text_eq {ss : List Segment} (h : ss.any isWildcard = false)
    (ws : List String) : covers ss ws = true ↔ ss.map text = ws := by
  induction ss generalizing ws with
  | nil =>
    rw [covers, List.isEmpty_iff, List.map_nil, eq_comm]
  | cons s ss ih =>
    rw [List.any_cons, Bool.or_eq_false_iff] at h
    cases s with
    | literal word =>
      cases ws with
      | nil => simp [covers]
      | cons w ws => simp [covers, ih h.2]
    | single => cases h.1
    | multi => cases h.1

/-! ## (2) Words and separators -/

/-- A word holds no separator. -/
theorem separator_notMem {w : List Char} (h : isWord w = true) : separator ∉ w := by
  rw [isWord, Bool.and_eq_true, List.all_eq_true] at h
  exact fun hmem => absurd (h.2 separator hmem) (by decide)

/-- Up to a separator or the end, what stands there without a separator is determined. -/
theorem takeWhile_append_rest {us vs : List Char} (hus : separator ∉ us)
    (hvs : vs = [] ∨ ∃ rest, vs = separator :: rest) :
    (us ++ vs).takeWhile (· != separator) = us := by
  have hall : ∀ c ∈ us, (c != separator) = true := by
    intro c hc
    rw [bne_iff_ne]
    rintro rfl
    exact hus hc
  rw [List.takeWhile_append_of_pos hall]
  rcases hvs with rfl | ⟨rest, rfl⟩
  · simp
  · simp

/-- Words behind separators are nothing or begin with a separator. -/
theorem joined_eq_nil_or_cons (ws : List (List Char)) :
    joined ws = [] ∨ ∃ rest, joined ws = separator :: rest := by
  cases ws with
  | nil => exact Or.inl rfl
  | cons w ws => exact Or.inr ⟨w ++ joined ws, joined_cons w ws⟩

/-- **A path is cut into words in one way only.** -/
theorem append_inj_of_separator {us vs us' vs' : List Char} (hus : separator ∉ us)
    (hus' : separator ∉ us') (hvs : vs = [] ∨ ∃ rest, vs = separator :: rest)
    (hvs' : vs' = [] ∨ ∃ rest, vs' = separator :: rest) (h : us ++ vs = us' ++ vs') :
    us = us' ∧ vs = vs' := by
  have hhead : us = us' := by
    rw [← takeWhile_append_rest hus hvs, h, takeWhile_append_rest hus' hvs']
  subst hhead
  exact ⟨rfl, List.append_cancel_left h⟩

/-! ## (3) Patterns on words -/

namespace Pattern

/-- A segment that denotes words only takes the first of the words. -/
theorem reads_ofSegments_cons_joined_cons {s : Segment} {ss : List Segment} {w : List Char}
    {ws : List (List Char)} (hs : ∀ us, s.Denotes us → separator ∉ us) (hw : separator ∉ w) :
    Reads (ofSegments (s :: ss)).atoms (joined (w :: ws)) ↔
      s.Denotes w ∧ Reads (ofSegments ss).atoms (joined ws) := by
  rw [reads_ofSegments_cons, joined_cons]
  constructor
  · rintro ⟨us, vs, heq, hus, hvs⟩
    obtain ⟨rfl, rfl⟩ := append_inj_of_separator hw (hs us hus) (joined_eq_nil_or_cons ws)
      (eq_nil_or_cons_of_reads hvs) (List.cons.inj heq).2
    exact ⟨hus, hvs⟩
  · rintro ⟨hdenotes, hread⟩
    exact ⟨w, joined ws, rfl, hdenotes, hread⟩

/-- A last `#` takes all words at once, at least one. -/
theorem reads_multi_joined {w : List Char} {ws : List (List Char)} (hw : isWord w = true)
    (hws : ∀ v ∈ ws, isWord v = true) : Reads (ofSegments [.multi]).atoms (joined (w :: ws)) := by
  rw [reads_ofSegments_cons, joined_cons]
  have hpath : IsPath (w ++ joined ws) := ⟨w, ws, hw, hws, rfl⟩
  exact ⟨w ++ joined ws, [], by rw [List.append_nil], hpath, rfl⟩

/-- If `#` is in no place but the last, then neither behind the first segment. -/
theorem notMem_dropLast_of_cons {s : Segment} {ss : List Segment}
    (h : .multi ∉ (s :: ss).dropLast) : .multi ∉ ss.dropLast := by
  cases ss with
  | nil => exact List.not_mem_nil
  | cons s' ss =>
    rw [List.dropLast_cons_cons] at h
    exact fun hmem => h (List.mem_cons_of_mem s hmem)

/-- If `#` is in no place but the last, then nothing follows it. -/
theorem eq_nil_of_notMem_dropLast {ss : List Segment} (h : .multi ∉ (.multi :: ss).dropLast) :
    ss = [] := by
  cases ss with
  | nil => rfl
  | cons s ss =>
    rw [List.dropLast_cons_cons] at h
    exact absurd List.mem_cons_self h

/-- **On words, a pattern does what coverage says.** -/
theorem reads_joined_iff {ss : List Segment} (hvalid : ∀ s ∈ ss, s.isValid = true)
    (hlast : .multi ∉ ss.dropLast) {ws : List String} (hws : ∀ w ∈ ws, isWord w.toList = true) :
    Reads (ofSegments ss).atoms (joined (ws.map String.toList)) ↔ Segment.covers ss ws = true := by
  induction ss generalizing ws with
  | nil =>
    rw [reads_ofSegments_nil]
    cases ws with
    | nil => simp [Segment.covers]
    | cons w ws => simp [Segment.covers]
  | cons s ss ih =>
    have htail := notMem_dropLast_of_cons hlast
    have hss : ∀ s' ∈ ss, s'.isValid = true := fun s' hs' => hvalid s' (List.mem_cons_of_mem s hs')
    cases ws with
    | nil =>
      rw [reads_ofSegments_cons]
      simp [Segment.covers]
    | cons w ws =>
      have hw : isWord w.toList = true := hws w List.mem_cons_self
      have hrest : ∀ v ∈ ws, isWord v.toList = true := fun v hv => hws v (List.mem_cons_of_mem w hv)
      rw [List.map_cons]
      cases s with
      | literal word =>
        -- neither the literal nor the word holds a separator, so they end together
        have hword : isWord word.toList = true := hvalid _ List.mem_cons_self
        have hsep : ∀ us, (Segment.literal word).Denotes us → separator ∉ us := by
          rintro us rfl
          exact separator_notMem hword
        rw [reads_ofSegments_cons_joined_cons hsep (separator_notMem hw), ih hss htail hrest,
          Segment.covers, Bool.and_eq_true, beq_iff_eq, Segment.Denotes, String.toList_inj, eq_comm]
      | single =>
        have hsep : ∀ us, Segment.single.Denotes us → separator ∉ us := fun us hus =>
          separator_notMem hus
        rw [reads_ofSegments_cons_joined_cons hsep (separator_notMem hw), ih hss htail hrest,
          Segment.covers]
        exact and_iff_right hw
      | multi =>
        -- `#` is the last segment, so both sides hold
        obtain rfl := eq_nil_of_notMem_dropLast hlast
        refine iff_of_true (reads_multi_joined hw ?_) rfl
        intro cs hcs
        obtain ⟨v, hv, rfl⟩ := List.mem_map.mp hcs
        exact hrest v hv

end Pattern

/-! ## (4) The titles of publications -/

namespace Title

/-- The titles of publications are the titles without wildcards. -/
theorem canonicalizeConcrete_eq_ok_iff {p : String} {title : Title} :
    canonicalizeConcrete p = .ok title ↔
      canonicalize p = .ok title ∧ title.isWildcard = false := by
  rw [canonicalizeConcrete]
  cases hp : canonicalize p with
  | error cause => simp
  | ok t =>
    cases hkind : t.isWildcard with
    | true =>
      simp only [hkind, if_true, reduceCtorEq, Except.ok.injEq, false_iff, not_and]
      rintro rfl
      simp [hkind]
    | false =>
      simp only [hkind, Bool.false_eq_true, if_false, Except.ok.injEq]
      constructor
      · rintro rfl
        exact ⟨rfl, hkind⟩
      · exact fun h => h.1

/-- The **words** of a title: its segments, written. -/
def words (t : Title) : List String := t.segments.map Segment.text

/-- The characters of a title are its words, each behind a separator. -/
theorem chars_eq_joined (t : Title) : t.chars = joined (t.words.map String.toList) := by
  simp [chars, joined, words, List.flatMap_map]

/-- Without wildcards, the segments of a title are words. -/
theorem isWord_of_mem_words {t : Title} (h : IsCanonicalPath t.segments)
    (hconcrete : t.isWildcard = false) : ∀ w ∈ t.words, isWord w.toList = true := by
  intro w hw
  obtain ⟨s, hs, rfl⟩ := List.mem_map.mp hw
  cases s with
  | literal word => exact h.isValid _ hs
  | single => exact absurd (List.any_eq_false.mp hconcrete _ hs) (by decide)
  | multi => exact absurd (List.any_eq_false.mp hconcrete _ hs) (by decide)

/-- **The pattern of a title** accepts the texts whose words the title covers. -/
theorem accepts_text_iff {t title : Title} (h : IsCanonicalPath t.segments)
    (htitle : IsCanonicalPath title.segments) (hconcrete : title.isWildcard = false) :
    (Pattern.ofSegments t.segments).accepts title.text = true ↔
      Segment.covers t.segments title.words = true := by
  rw [Pattern.accepts_iff, toList_text, chars_eq_joined]
  exact Pattern.reads_joined_iff h.isValid h.multi_last (isWord_of_mem_words htitle hconcrete)

/-- A text determines the title that canonicalization made of it. -/
theorem eq_of_text_eq {raw raw' : String} {t t' : Title} (h : canonicalize raw = .ok t)
    (h' : canonicalize raw' = .ok t') (htext : t.text = t'.text) : t = t' := by
  have ht := canonicalize_text_of_canonicalize h
  rw [htext, canonicalize_text_of_canonicalize h'] at ht
  exact (Except.ok.inj ht).symm

/-- **A title without wildcards** covers its own words only. -/
theorem covers_iff_text_eq {raw raw' : String} {t title : Title} (h : canonicalize raw = .ok t)
    (h' : canonicalize raw' = .ok title) (hplain : t.isWildcard = false) :
    Segment.covers t.segments title.words = true ↔ t.text = title.text := by
  rw [Segment.covers_iff_map_text_eq hplain]
  constructor
  · intro hwords
    have hchars : t.chars = title.chars := by
      rw [chars_eq_joined, chars_eq_joined, words, hwords]
    rw [text, text, hchars]
  · intro htext
    rw [eq_of_text_eq h h' htext]
    rfl

end Title

end PubSub
