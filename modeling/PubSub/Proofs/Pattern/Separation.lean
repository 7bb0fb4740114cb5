import PubSub.Proofs.Pattern.Widening
import PubSub.Proofs.Registry.Invariant

/-! # Canonical titles are told apart by what they cover

Two topics that cover the same titles would be one topic under two names. This does not happen among
canonical titles: if two of them differ, then some path of words is covered by one and not by the
other.

* **`Segment.ToldApart ss ss'`** — one of the two segment lists covers words that the other does
  not.
* **`Segment.toldApart_literal`**, **`Segment.toldApart_single_multi`** — lists whose first segments
  differ are told apart by their first words.
* **`Segment.toldApart_of_ne`** — so are any two lists with `#` at their ends only.
* **`Title.ToldApart`**, **`Registry.wildcards_told_apart`** — hence the patterns of different
  canonical titles differ, and so do the patterns that a registry keeps. -/

namespace PubSub

/-! ## (1) Segments and words -/

namespace Segment

/-- Two segment lists are **told apart** by words that one of them covers and the other does not. -/
def ToldApart (ss ss' : List Segment) : Prop :=
  ∃ words, (∀ w ∈ words, isWord w.toList = true) ∧ covers ss words ≠ covers ss' words

namespace ToldApart

variable {ss ss' : List Segment}

/-- A path that tells two lists apart tells them apart in either order. -/
theorem symm (h : ToldApart ss ss') : ToldApart ss' ss :=
  have ⟨words, hwords, hne⟩ := h
  ⟨words, hwords, hne.symm⟩

/-- One list covers the words, and the other does not. -/
theorem intro (words : List String) (hwords : ∀ w ∈ words, isWord w.toList = true)
    (h : covers ss words = false) (h' : covers ss' words = true) : ToldApart ss ss' :=
  ⟨words, hwords, by rw [h, h']; exact Bool.false_ne_true⟩

/-- Lists that are told apart are told apart behind a segment that takes one word. -/
theorem cons (h : ToldApart ss ss') {s : Segment} (hs : s.isValid = true) (hne : s ≠ .multi) :
    ToldApart (s :: ss) (s :: ss') := by
  obtain ⟨words, hwords, hcovers⟩ := h
  refine ⟨s.sample :: words, List.forall_mem_cons.mpr ⟨isWord_sample hs, hwords⟩, ?_⟩
  cases s with
  | literal word => simpa [covers, sample] using hcovers
  | single => exact hcovers
  | multi => exact absurd rfl hne

end ToldApart

/-- For every word there is another one. -/
theorem exists_word_ne (word : String) : ∃ w : String, isWord w.toList = true ∧ w ≠ word := by
  by_cases h : word = "a"
  · exact ⟨"b", by decide, by rw [h]; decide⟩
  · exact ⟨"a", by decide, Ne.symm h⟩

/-- Samples of valid segments are words. -/
theorem isWord_of_mem_map_sample {ss : List Segment} (h : ∀ s ∈ ss, s.isValid = true) :
    ∀ w ∈ ss.map sample, isWord w.toList = true := by
  intro w hw
  obtain ⟨s, hs, rfl⟩ := List.mem_map.mp hw
  exact isWord_sample (h s hs)

/-- **A literal and another first segment**: the other one covers a first word that the literal does
not. -/
theorem toldApart_literal {word : String} {ss ss' : List Segment} {s : Segment}
    (hne : s ≠ .literal word) (hvalid : ∀ s' ∈ s :: ss', s'.isValid = true)
    (hlast : .multi ∉ (s :: ss').dropLast) : ToldApart (.literal word :: ss) (s :: ss') := by
  obtain ⟨hs, hss'⟩ := List.forall_mem_cons.mp hvalid
  have hrest := covers_sample (Pattern.notMem_dropLast_of_cons hlast)
  have hwords := isWord_of_mem_map_sample hss'
  -- The first word is that of the other literal, or any word but this one.
  cases s with
  | literal other =>
    have hother : word ≠ other := fun heq => hne (heq ▸ rfl)
    refine .intro (other :: ss'.map sample) ?_ ?_ ?_
    · exact List.forall_mem_cons.mpr ⟨hs, hwords⟩
    · simp [covers, hother]
    · simpa [covers] using hrest
  | single =>
    obtain ⟨w, hw, hother⟩ := exists_word_ne word
    refine .intro (w :: ss'.map sample) ?_ ?_ hrest
    · exact List.forall_mem_cons.mpr ⟨hw, hwords⟩
    · simp [covers, Ne.symm hother]
  | multi =>
    obtain ⟨w, hw, hother⟩ := exists_word_ne word
    obtain rfl := Pattern.eq_nil_of_notMem_dropLast hlast
    refine .intro [w] ?_ ?_ rfl
    · exact List.forall_mem_singleton.mpr hw
    · simp [covers, Ne.symm hother]

/-- **A first `+` and a `#`**: the `#` covers one word and two words, and the `+` with what follows
it cannot cover both. -/
theorem toldApart_single_multi (ss : List Segment) : ToldApart (.single :: ss) [.multi] := by
  cases ss with
  | nil => exact .intro ["a", "a"] (by decide) rfl rfl
  | cons s ss => exact .intro ["a"] (by decide) rfl rfl

/-- **Different segment lists are told apart**, if `#` is in no place but the last. -/
theorem toldApart_of_ne {ss ss' : List Segment} (hvalid : ∀ s ∈ ss, s.isValid = true)
    (hlast : .multi ∉ ss.dropLast) (hvalid' : ∀ s ∈ ss', s.isValid = true)
    (hlast' : .multi ∉ ss'.dropLast) (hne : ss ≠ ss') : ToldApart ss ss' := by
  induction ss generalizing ss' with
  | nil =>
    -- the other list needs a word
    cases ss' with
    | nil => exact absurd rfl hne
    | cons s' ss' =>
      exact (ToldApart.intro [] (List.forall_mem_nil _) rfl rfl).symm
  | cons s ss ih =>
    cases ss' with
    | nil => exact .intro [] (List.forall_mem_nil _) rfl rfl
    | cons s' ss' =>
      -- equal first segments are passed over, and the lists behind them differ
      have hbehind : s = s' → s ≠ .multi → ToldApart (s :: ss) (s' :: ss') := by
        rintro rfl hs
        refine (ih (fun t ht => hvalid t (List.mem_cons_of_mem s ht))
          (Pattern.notMem_dropLast_of_cons hlast)
          (fun t ht => hvalid' t (List.mem_cons_of_mem s ht))
          (Pattern.notMem_dropLast_of_cons hlast') fun heq => ?_).cons
          (hvalid s List.mem_cons_self) hs
        exact hne (heq ▸ rfl)
      cases s with
      | literal word =>
        by_cases heq : s' = .literal word
        · exact hbehind heq.symm nofun
        · exact toldApart_literal heq hvalid' hlast'
      | single =>
        cases s' with
        | literal word => exact .symm (toldApart_literal nofun hvalid hlast)
        | single => exact hbehind rfl nofun
        | multi =>
          obtain rfl := Pattern.eq_nil_of_notMem_dropLast hlast'
          exact toldApart_single_multi ss
      | multi =>
        obtain rfl := Pattern.eq_nil_of_notMem_dropLast hlast
        cases s' with
        | literal word => exact .symm (toldApart_literal nofun hvalid hlast)
        | single => exact (toldApart_single_multi ss').symm
        | multi =>
          obtain rfl := Pattern.eq_nil_of_notMem_dropLast hlast'
          exact absurd rfl hne

end Segment

/-! ## (2) Titles -/

/-- On the path of some words, the pattern of canonical segments does what coverage says. -/
theorem Pattern.accepts_eq_covers {ss : List Segment} (h : Title.IsCanonicalPath ss)
    {words : List String} {text : String} (hpath : IsWordPath words text) :
    (ofSegments ss).accepts text = Segment.covers ss words := by
  rw [Bool.eq_iff_iff, accepts_iff, hpath.text_eq, toList_intercalate hpath.ne_nil]
  exact reads_joined_iff h.isValid h.multi_last hpath.isWord

namespace Title

/-- Two titles are **told apart** by a path of words that the pattern of one accepts and that of the
other does not. -/
def ToldApart (t t' : Title) : Prop :=
  ∃ words text, IsWordPath words text ∧
    (Pattern.ofSegments t.segments).accepts text ≠ (Pattern.ofSegments t'.segments).accepts text

/-- **Different canonical titles are told apart.** -/
theorem toldApart_of_ne {raw raw' : String} {t t' : Title} (h : canonicalize raw = .ok t)
    (h' : canonicalize raw' = .ok t') (hne : t ≠ t') : t.ToldApart t' := by
  obtain ⟨hpath, -⟩ := isCanonicalPath_of_canonicalize h
  obtain ⟨hpath', -⟩ := isCanonicalPath_of_canonicalize h'
  have hsegments : t.segments ≠ t'.segments := fun heq => hne (by
    cases t
    cases t'
    rw [Title.mk.injEq]
    exact heq)
  obtain ⟨words, hwords, hcovers⟩ := Segment.toldApart_of_ne hpath.isValid hpath.multi_last
    hpath'.isValid hpath'.multi_last hsegments
  -- neither list covers no words at all
  have hsome : words ≠ [] := by
    rintro rfl
    obtain ⟨s, ss, heq⟩ := List.exists_cons_of_ne_nil hpath.ne_nil
    obtain ⟨s', ss', heq'⟩ := List.exists_cons_of_ne_nil hpath'.ne_nil
    rw [heq, heq'] at hcovers
    exact hcovers rfl
  have htext : IsWordPath words ("/" ++ "/".intercalate words) := ⟨hsome, hwords, rfl⟩
  refine ⟨words, _, htext, ?_⟩
  rwa [Pattern.accepts_eq_covers hpath htext, Pattern.accepts_eq_covers hpath' htext]

end Title

/-! ## (3) The wildcard topics of a registry -/

/-- A wildcard topic in its place covers what the pattern of its title accepts. -/
theorem Topic.FiledUnder.covers_eq_accepts {topic : Topic} {title : String}
    (h : topic.FiledUnder ⟨title, .wildcard⟩) (candidate : String) :
    topic.covers candidate = (Pattern.ofSegments topic.title.segments).accepts candidate := by
  rw [covers, h.pattern_eq, if_pos rfl]

/-- **Canonical titles are normal forms of what they cover.** For any two different canonical titles
there is a path of words that the pattern of one accepts and that of the other does not. So in no
state that a history leads to are there two wildcard topics that cover the same texts. -/
theorem Registry.wildcards_told_apart :
    (∀ (raw raw' : String) (t t' : Title), Title.canonicalize raw = .ok t →
      Title.canonicalize raw' = .ok t' → t ≠ t' → t.ToldApart t') ∧
      ∀ (history : List (Time × Operation)) (title title' : String) (topic topic' : Topic),
        (empty.run history).1.index.wildcard[title]? = some topic →
          (empty.run history).1.index.wildcard[title']? = some topic' → title ≠ title' →
            ∃ words text, IsWordPath words text ∧ topic.covers text ≠ topic'.covers text := by
  refine ⟨fun raw raw' t t' h h' hne => Title.toldApart_of_ne h h' hne,
    fun history title title' topic topic' hget hget' hne => ?_⟩
  have hwf : (empty.run history).1.WellFormed := wellFormed_empty.run history
  have hfiled := hwf.filed ⟨title, .wildcard⟩ topic hget
  have hfiled' := hwf.filed ⟨title', .wildcard⟩ topic' hget'
  have htitles : topic.title ≠ topic'.title := fun heq =>
    hne (hfiled.text_eq.symm.trans ((congrArg Title.text heq).trans hfiled'.text_eq))
  obtain ⟨words, text, hpath, haccepts⟩ :=
    Title.toldApart_of_ne hfiled.canonical hfiled'.canonical htitles
  refine ⟨words, text, hpath, ?_⟩
  rwa [hfiled.covers_eq_accepts, hfiled'.covers_eq_accepts]

/-- A registry with the topics `/+/a/#` and `/a/#`, which have paths in common. -/
theorem Registry.wildcards_told_apart_overlapping :
    let history : List (Time × Operation) := [(1, .subscribe 1 ["+/a/#", "a/#"] .qos0)]
    ∃ topic topic', (empty.run history).1.index.wildcard["/+/a/#"]? = some topic ∧
      (empty.run history).1.index.wildcard["/a/#"]? = some topic' ∧
      ∃ words text, IsWordPath words text ∧ topic.covers text ≠ topic'.covers text := by
  intro history
  have hget : ((empty.run history).1.index.wildcard["/+/a/#"]?).isSome = true := by rfl
  have hget' : ((empty.run history).1.index.wildcard["/a/#"]?).isSome = true := by rfl
  obtain ⟨topic, htopic⟩ := Option.isSome_iff_exists.mp hget
  obtain ⟨topic', htopic'⟩ := Option.isSome_iff_exists.mp hget'
  exact ⟨topic, topic', htopic, htopic', wildcards_told_apart.2 history _ _ topic topic' htopic
    htopic' (by decide)⟩

end PubSub
