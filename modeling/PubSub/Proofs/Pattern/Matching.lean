import PubSub.Proofs.Pattern.Coverage
import PubSub.Topic

/-! # What a topic covers

A topic is asked about any text, also one that no canonicalization has seen. This file says which
texts it covers.

* **`IsWordPath words text`** — the text consists of the words with separators between, behind a
  separator.
* **`Pattern.exists_joined_of_reads`** — a pattern of valid segments reads nothing but words, each
  behind a separator, so the cuts between them are known.
* **`Pattern.accepts_ofSegments_iff`** — the pattern of canonical segments accepts the paths of
  words that the segments cover, and no other text.
* **`Topic.covers_new_iff`** — the same of the topic of a canonical title; a topic without wildcards
  covers its own title only. -/

namespace PubSub

/-! ## (1) Paths of words -/

/-- A text is the **path of words**: at least one word, with separators between and one in front. -/
structure IsWordPath (words : List String) (text : String) : Prop where
  /-- There is a word. -/
  ne_nil : words ≠ []
  /-- Every one is a word. -/
  isWord : ∀ w ∈ words, isWord w.toList = true
  /-- The text joins them. -/
  text_eq : text = "/" ++ "/".intercalate words

/-- Joining texts with separators is putting each behind a separator. -/
theorem toList_intercalate {words : List String} (h : words ≠ []) :
    ("/" ++ "/".intercalate words).toList = joined (words.map String.toList) := by
  -- the words are the segments of a title without wildcards
  have htext : (words.map Segment.literal).map Segment.text = words := by
    rw [List.map_map]
    exact List.map_id words
  have hne : words.map Segment.literal ≠ [] := by simpa using h
  have hjoined := text_eq_intercalate hne
  rw [htext] at hjoined
  rw [← hjoined, Title.toList_text, Title.chars_eq_joined, Title.words, htext]

namespace Pattern

/-! ## (2) What valid segments read -/

/-- The texts of a valid segment, behind a separator, are words behind separators. -/
theorem exists_joined_of_denotes {s : Segment} (hs : s.isValid = true) {us : List Char}
    (h : s.Denotes us) :
    ∃ ws, (∀ w ∈ ws, isWord w = true) ∧ separator :: us = joined ws := by
  cases s with
  | literal word =>
    obtain rfl : us = word.toList := h
    exact ⟨[word.toList], by simpa [Segment.isValid] using hs, by simp⟩
  | single =>
    have hword : isWord us = true := h
    exact ⟨[us], by simpa using hword, by simp⟩
  | multi =>
    obtain ⟨w, ws, hw, hws, rfl⟩ := h
    refine ⟨w :: ws, ?_, (joined_cons w ws).symm⟩
    exact List.forall_mem_cons.mpr ⟨hw, hws⟩

/-- **Valid segments read words only**, each behind a separator. -/
theorem exists_joined_of_reads {ss : List Segment} (hvalid : ∀ s ∈ ss, s.isValid = true)
    {cs : List Char} (h : Reads (ofSegments ss).atoms cs) :
    ∃ ws, (∀ w ∈ ws, isWord w = true) ∧ cs = joined ws := by
  induction ss generalizing cs with
  | nil =>
    obtain rfl := (reads_ofSegments_nil cs).mp h
    exact ⟨[], List.forall_mem_nil _, rfl⟩
  | cons s ss ih =>
    -- the words of the first segment, and then those of the others
    obtain ⟨hs, hss⟩ := List.forall_mem_cons.mp hvalid
    obtain ⟨us, vs, rfl, hus, hvs⟩ := (reads_ofSegments_cons s ss cs).mp h
    obtain ⟨ws, hws, hjoined⟩ := exists_joined_of_denotes hs hus
    obtain ⟨ws', hws', rfl⟩ := ih hss hvs
    refine ⟨ws ++ ws', fun w hw => ?_, ?_⟩
    · rcases List.mem_append.mp hw with hw | hw
      · exact hws w hw
      · exact hws' w hw
    · rw [← List.cons_append, hjoined, joined, joined, joined, List.flatMap_append]

/-- **The pattern of canonical segments** accepts the paths of words that the segments cover. -/
theorem accepts_ofSegments_iff {ss : List Segment} (h : Title.IsCanonicalPath ss)
    (candidate : String) :
    (ofSegments ss).accepts candidate = true ↔
      ∃ words, IsWordPath words candidate ∧ Segment.covers ss words = true := by
  rw [accepts_iff]
  constructor
  · intro hreads
    obtain ⟨ws, hws, hjoined⟩ := exists_joined_of_reads h.isValid hreads
    have hlists : (ws.map String.ofList).map String.toList = ws := by
      rw [List.map_map]
      exact (List.map_congr_left fun w _ => String.toList_ofList).trans (List.map_id ws)
    have hwords : ∀ w ∈ ws.map String.ofList, isWord w.toList = true := by
      intro w hw
      obtain ⟨cs, hcs, rfl⟩ := List.mem_map.mp hw
      rw [String.toList_ofList]
      exact hws cs hcs
    rw [hjoined, ← hlists, reads_joined_iff h.isValid h.multi_last hwords] at hreads
    -- canonical segments cover no empty list of words
    have hne : ws.map String.ofList ≠ [] := by
      intro hnil
      obtain ⟨s, ss', rfl⟩ := List.exists_cons_of_ne_nil h.ne_nil
      rw [hnil] at hreads
      cases hreads
    refine ⟨ws.map String.ofList, ⟨hne, hwords, String.toList_injective ?_⟩, hreads⟩
    rw [toList_intercalate hne, hlists, hjoined]
  · rintro ⟨words, hpath, hcovers⟩
    rw [hpath.text_eq, toList_intercalate hpath.ne_nil]
    exact (reads_joined_iff h.isValid h.multi_last hpath.isWord).mpr hcovers

end Pattern

/-! ## (3) The topics of canonical titles -/

/-- **What a topic covers.** The topic of a canonical title with wildcards covers a text exactly if
the text is a path of words and the segments of the title cover them one after the other; the topic
of any other canonical title covers its own title and nothing else. -/
theorem Topic.covers_new_iff {raw : String} {title : Title}
    (h : Title.canonicalize raw = .ok title) (now : Time) (candidate : String) :
    (Topic.new title now).covers candidate = true ↔
      if title.isWildcard = true then
        ∃ words, IsWordPath words candidate ∧ Segment.covers title.segments words = true
      else candidate = title.text := by
  rw [covers, new]
  cases hkind : title.isWildcard with
  | true =>
    simp only [if_true]
    exact Pattern.accepts_ofSegments_iff (Title.isCanonicalPath_of_canonicalize h).1 candidate
  | false =>
    simp only [Bool.false_eq_true, if_false, beq_iff_eq]
    exact eq_comm

/-- The topic of `/+/b/#` covers a path of four words, so its segments cover the words of a path. -/
theorem covers_new_iff_four_words :
    Title.canonicalize "+/b/#" = .ok ⟨[.single, .literal "b", .multi]⟩ ∧
      ∃ words, IsWordPath words "/a/b/c/d" ∧
        Segment.covers [.single, .literal "b", .multi] words = true := by
  have htitle : Title.canonicalize "+/b/#" = .ok ⟨[.single, .literal "b", .multi]⟩ := by decide
  have hcovers : (Topic.new ⟨[.single, .literal "b", .multi]⟩ 0).covers "/a/b/c/d" = true := by
    decide
  exact ⟨htitle, (Topic.covers_new_iff htitle 0 "/a/b/c/d").mp hcovers⟩

end PubSub
