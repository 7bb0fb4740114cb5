import PubSub.Proofs.Pattern.Matching

/-! # What collapsing wildcards changes

Canonicalization shrinks the run of `+` around a `#` to the `#`. A subscription to `a/+/#` is then
one to `a/#`, which covers more. This file compares the pattern of the segments as they stand in the
raw title with that of the canonical segments.

* **`Title.uncollapsed raw`** — the segments of a raw title, cut at separators and wildcards with
  nothing collapsed.
* **`Segment.Touches ss`** — some `+` stands next to the `#`.
* **`Title.uncollapsed_cases`** — canonicalization keeps the segments, or shrinks one run of them.
* **`Pattern.reads_multi_of_reads`** — whatever one or more segments read, `#` reads as well, so
  shrinking a run widens the pattern.
* **`Pattern.length_le_count_of_reads`** — a text that is read has a separator for every segment, so
  the pattern of fewer segments reads a shorter path.
* **`Title.accepts_uncollapsed`** — collapsing never narrows a pattern, and it widens it exactly if
  some `+` touches the `#`. -/

namespace PubSub

/-! ## (1) Segments before collapsing -/

/-- The segments of a raw title **before collapsing**: the text without blanks at its ends is cut at
every separator and wildcard. -/
def Title.uncollapsed (raw : String) : List Segment :=
  (Title.cut [] (trim isBlank raw.toList)).map segmentOf

/-- Some `+` stands **next to** a `#`. -/
def Segment.Touches (ss : List Segment) : Prop :=
  [.single, .multi] <:+: ss ∨ [.multi, .single] <:+: ss

/-- Whether a list has a `+` beside a `#` can be computed. -/
instance Segment.decidableTouches (ss : List Segment) : Decidable (Touches ss) :=
  inferInstanceAs (Decidable (_ ∨ _))

namespace Title

/-- Behind a `#` that is in no place but the last there is nothing. -/
theorem eq_nil_of_multi_last {front rest : List Segment}
    (h : .multi ∉ (front ++ .multi :: rest).dropLast) : rest = [] := by
  refine Pattern.eq_nil_of_notMem_dropLast fun hmem => h ?_
  rw [List.dropLast_append_of_ne_nil (List.cons_ne_nil _ _)]
  exact List.mem_append_right front hmem

/-- Among canonical segments no `+` stands next to the `#`. -/
theorem IsCanonicalPath.not_touches {ss : List Segment} (h : IsCanonicalPath ss) :
    ¬Segment.Touches ss := by
  rintro (hpair | ⟨front, rest, rfl⟩)
  · exact h.not_single_multi hpair
  · have hlast := h.multi_last
    rw [List.append_assoc] at hlast
    exact List.cons_ne_nil _ _ (eq_nil_of_multi_last hlast)

/-- Tokens that are all `+` are so many `+` segments. -/
theorem map_segmentOf_of_all_single {ts : List (List Char)} (h : ∀ t ∈ ts, t = ['+']) :
    ts.map segmentOf = List.replicate ts.length .single := by
  rw [List.eq_replicate_of_mem h, List.map_replicate, List.length_replicate]
  rfl

/-- The run of `+` at the end of some tokens becomes a run of `+` segments. -/
theorem map_segmentOf_eq_append_replicate (ts : List (List Char)) :
    ts.map segmentOf = (ts.rdropWhile (· == ['+'])).map segmentOf ++
      List.replicate (ts.rtakeWhile (· == ['+'])).length .single := by
  have hrun : ∀ t ∈ ts.rtakeWhile (· == ['+']), t = ['+'] := by
    intro t ht
    have hplus := List.mem_rtakeWhile_imp ht
    exact beq_iff_eq.mp hplus
  conv_lhs => rw [← List.rdropWhile_append_rtakeWhile (l := ts) (p := (· == ['+']))]
  rw [List.map_append, map_segmentOf_of_all_single hrun]

/-- **What collapsing does to the segments**: without a `#` they stay, and with one the run of `+`
on both sides of it goes. -/
theorem uncollapsed_cases {raw : String} {title : Title} (h : canonicalize raw = .ok title) :
    uncollapsed raw = title.segments ∨
      ∃ front before after,
        uncollapsed raw = front ++ (List.replicate before .single ++
          .multi :: List.replicate after .single) ∧
        title.segments = front ++ [.multi] := by
  obtain ⟨-, -, hcount, -, hsegments⟩ := canonicalize_eq_ok_iff.mp h
  have hstripped := count_trim_le isBlank '#' hcount
  rw [splitSegments_prepare hcount] at hsegments
  obtain ⟨-, -, hlast, -, rfl⟩ := ofSegments_eq_ok_iff.mp hsegments
  have hnoHash : ∀ ds : List Char, '#' ∉ ds → ['#'] ∉ cut [] ds := fun ds hds =>
    mt (singleton_mem_cut_iff (Or.inr rfl) List.not_mem_nil ds).mp hds
  rw [uncollapsed]
  rcases notMem_or_eq_append_hash hstripped with hmem | ⟨before, after, heq, hbefore, hafter⟩
  · rw [absorb_of_notMem (hnoHash _ hmem)]
    exact Or.inl rfl
  · rw [heq, cut_append_wildcard (Or.inr rfl)] at hlast ⊢
    rw [absorb_append_hash (hnoHash before hbefore) (hnoHash after hafter)] at hlast ⊢
    -- the `#` is the last segment, so nothing but `+` stands behind it
    have hnothing : (cut [] after).dropWhile (· == ['+']) = [] := by
      rw [hashLast_iff, List.map_append, List.map_cons] at hlast
      exact List.map_eq_nil_iff.mp (eq_nil_of_multi_last hlast)
    have hbehind : ∀ t ∈ cut [] after, t = ['+'] := by
      simpa using hnothing
    refine Or.inr ⟨((cut [] before).rdropWhile (· == ['+'])).map segmentOf,
      ((cut [] before).rtakeWhile (· == ['+'])).length, (cut [] after).length, ?_, ?_⟩
    · rw [List.map_append, List.map_cons, map_segmentOf_eq_append_replicate (cut [] before),
        map_segmentOf_of_all_single hbehind, List.append_assoc]
      rfl
    · rw [hnothing, List.map_append]
      rfl

end Title

/-! ## (2) Wider patterns -/

namespace Pattern

/-- A pattern reads more if the pattern behind its first segments reads more. -/
theorem reads_append_mono {ss ss' : List Segment}
    (h : ∀ cs, Reads (ofSegments ss).atoms cs → Reads (ofSegments ss').atoms cs)
    (front : List Segment) {cs : List Char} (hread : Reads (ofSegments (front ++ ss)).atoms cs) :
    Reads (ofSegments (front ++ ss')).atoms cs := by
  induction front generalizing cs with
  | nil => exact h cs hread
  | cons s front ih =>
    rw [List.cons_append, reads_ofSegments_cons] at hread ⊢
    obtain ⟨us, vs, hcs, hus, hvs⟩ := hread
    exact ⟨us, vs, hcs, hus, ih hvs⟩

/-- **`#` reads whatever other segments read.** -/
theorem reads_multi_of_reads {ss : List Segment} (hne : ss ≠ [])
    (hvalid : ∀ s ∈ ss, s.isValid = true) {cs : List Char}
    (hread : Reads (ofSegments ss).atoms cs) : Reads (ofSegments [.multi]).atoms cs := by
  obtain ⟨s, ss, rfl⟩ := List.exists_cons_of_ne_nil hne
  obtain ⟨ws, hws, rfl⟩ := exists_joined_of_reads hvalid hread
  cases ws with
  | nil =>
    -- the separator of the first segment is missing
    obtain ⟨us, vs, heq, -, -⟩ := (reads_ofSegments_cons s ss _).mp hread
    cases heq
  | cons w ws =>
    obtain ⟨hw, hrest⟩ := List.forall_mem_cons.mp hws
    exact reads_multi_joined hw hrest

/-- **Every segment takes a separator** of a text that is read. -/
theorem length_le_count_of_reads {ss : List Segment} {cs : List Char}
    (hread : Reads (ofSegments ss).atoms cs) : ss.length ≤ cs.count separator := by
  induction ss generalizing cs with
  | nil => exact Nat.zero_le _
  | cons s ss ih =>
    obtain ⟨us, vs, rfl, -, hvs⟩ := (reads_ofSegments_cons s ss cs).mp hread
    have hrest := ih hvs
    rw [List.count_cons_self, List.count_append, List.length_cons]
    omega

/-- A path of words has a separator for every word. -/
theorem count_separator_joined {ws : List (List Char)} (hws : ∀ w ∈ ws, isWord w = true) :
    (joined ws).count separator = ws.length := by
  induction ws with
  | nil => rfl
  | cons w ws ih =>
    obtain ⟨hw, hrest⟩ := List.forall_mem_cons.mp hws
    rw [joined_cons, List.count_cons_self, List.count_append,
      List.count_eq_zero.mpr (separator_notMem hw), ih hrest, List.length_cons]
    omega

end Pattern

/-! ## (3) A shortest path -/

/-- A word that a segment covers. -/
def Segment.sample : Segment → String
  | .literal word => word
  | .single | .multi => "a"

/-- Every valid segment covers a word. -/
theorem Segment.isWord_sample {s : Segment} (h : s.isValid = true) :
    isWord s.sample.toList = true := by
  cases s with
  | literal word => exact h
  | single | multi => decide

/-- The samples of segments are covered by the segments. -/
theorem Segment.covers_sample {ss : List Segment} (h : .multi ∉ ss.dropLast) :
    covers ss (ss.map sample) = true := by
  induction ss with
  | nil => rfl
  | cons s ss ih =>
    have hrest := ih (Pattern.notMem_dropLast_of_cons h)
    cases s with
    | literal word => simpa [covers, sample] using hrest
    | single => exact hrest
    | multi =>
      obtain rfl := Pattern.eq_nil_of_notMem_dropLast h
      rfl

namespace Title

/-- **The pattern of canonical segments accepts a path with as many words as segments.** -/
theorem IsCanonicalPath.exists_accepts {ss : List Segment} (h : IsCanonicalPath ss) :
    ∃ candidate : String, (Pattern.ofSegments ss).accepts candidate = true ∧
      candidate.toList.count separator = ss.length := by
  have hwords : ∀ w ∈ ss.map Segment.sample, isWord w.toList = true := by
    intro w hw
    obtain ⟨s, hs, rfl⟩ := List.mem_map.mp hw
    exact Segment.isWord_sample (h.isValid s hs)
  have hne : ss.map Segment.sample ≠ [] := by simpa using h.ne_nil
  refine ⟨"/" ++ "/".intercalate (ss.map Segment.sample), ?_, ?_⟩
  · exact (Pattern.accepts_ofSegments_iff h _).mpr
      ⟨_, ⟨hne, hwords, rfl⟩, Segment.covers_sample h.multi_last⟩
  · rw [toList_intercalate hne, Pattern.count_separator_joined, List.length_map, List.length_map]
    intro cs hcs
    obtain ⟨w, hw, rfl⟩ := List.mem_map.mp hcs
    exact hwords w hw

/-! ## (4) Collapsing widens -/

/-- Whatever the segments of a raw title read, the canonical segments read as well. -/
theorem reads_of_reads_uncollapsed {raw : String} {title : Title}
    (h : canonicalize raw = .ok title) {cs : List Char}
    (hread : Pattern.Reads (Pattern.ofSegments (uncollapsed raw)).atoms cs) :
    Pattern.Reads (Pattern.ofSegments title.segments).atoms cs := by
  rcases uncollapsed_cases h with heq | ⟨front, before, after, hraw, htitle⟩
  · rwa [heq] at hread
  · rw [hraw] at hread
    rw [htitle]
    -- the run consists of wildcards, and there is at least the `#` in it
    have hne : List.replicate before Segment.single ++
        .multi :: List.replicate after .single ≠ [] := by simp
    have hvalid : ∀ s ∈ List.replicate before Segment.single ++
        .multi :: List.replicate after .single, s.isValid = true := by
      intro s hs
      rw [List.mem_append, List.mem_cons] at hs
      rcases hs with hs | rfl | hs
      · rw [List.eq_of_mem_replicate hs, Segment.isValid_single]
      · rfl
      · rw [List.eq_of_mem_replicate hs, Segment.isValid_single]
    exact Pattern.reads_append_mono (fun _ => Pattern.reads_multi_of_reads hne hvalid) front hread

/-- **Collapsing** leaves the segments as they are, or takes away a `+` next to the `#`. -/
theorem uncollapsed_eq_or_lt {raw : String} {title : Title} (h : canonicalize raw = .ok title) :
    (uncollapsed raw = title.segments ∧ ¬Segment.Touches (uncollapsed raw)) ∨
      (title.segments.length < (uncollapsed raw).length ∧ Segment.Touches (uncollapsed raw)) := by
  have hcanonical := (isCanonicalPath_of_canonicalize h).1.not_touches
  rcases uncollapsed_cases h with heq | ⟨front, before, after, hraw, htitle⟩
  · exact Or.inl ⟨heq, heq ▸ hcanonical⟩
  · cases before with
    | zero =>
      cases after with
      | zero =>
        have heq : uncollapsed raw = title.segments := by rw [hraw, htitle]; rfl
        exact Or.inl ⟨heq, heq ▸ hcanonical⟩
      | succ after =>
        refine Or.inr ⟨by rw [hraw, htitle]; simp, Or.inr ?_⟩
        exact ⟨front, List.replicate after .single, by rw [hraw, List.replicate_succ]; simp⟩
    | succ before =>
      refine Or.inr ⟨by rw [hraw, htitle]; simp; omega, Or.inl ?_⟩
      exact ⟨front ++ List.replicate before .single, List.replicate after .single, by
        rw [hraw, List.replicate_succ']; simp⟩

/-- **Collapsing widens, and exactly where a `+` touches the `#`.** Take any raw title that can be
canonicalized. What the pattern of its segments accepts without collapsing, the pattern of its
canonical segments accepts as well; both accept the same texts if no `+` stands next to the `#`, and
otherwise there is a text that only the canonical pattern accepts. -/
theorem accepts_uncollapsed {raw : String} {title : Title} (h : canonicalize raw = .ok title) :
    (∀ candidate, (Pattern.ofSegments (uncollapsed raw)).accepts candidate = true →
        (Pattern.ofSegments title.segments).accepts candidate = true) ∧
      (¬Segment.Touches (uncollapsed raw) → ∀ candidate,
        (Pattern.ofSegments (uncollapsed raw)).accepts candidate =
          (Pattern.ofSegments title.segments).accepts candidate) ∧
      (Segment.Touches (uncollapsed raw) → ∃ candidate,
        (Pattern.ofSegments title.segments).accepts candidate = true ∧
          (Pattern.ofSegments (uncollapsed raw)).accepts candidate = false) := by
  refine ⟨fun candidate haccepts => ?_, fun hnot candidate => ?_, fun htouches => ?_⟩
  · rw [Pattern.accepts_iff] at haccepts ⊢
    exact reads_of_reads_uncollapsed h haccepts
  · rcases uncollapsed_eq_or_lt h with ⟨heq, -⟩ | ⟨-, htouches⟩
    · rw [heq]
    · exact absurd htouches hnot
  · rcases uncollapsed_eq_or_lt h with ⟨-, hnot⟩ | ⟨hlt, -⟩
    · exact absurd htouches hnot
    · -- the shortest path has too few words for the segments of the raw title
      obtain ⟨candidate, haccepts, hcount⟩ :=
        (isCanonicalPath_of_canonicalize h).1.exists_accepts
      refine ⟨candidate, haccepts, ?_⟩
      rw [← Bool.not_eq_true, Pattern.accepts_iff]
      intro hread
      have hle := Pattern.length_le_count_of_reads hread
      omega

/-- With a `+` on either side of its `#`, the raw title `a/+/#/+` asks for fewer paths than the
canonical `/a/#`. -/
theorem accepts_uncollapsed_both_sides :
    canonicalize " a/+/#/+" = .ok ⟨[.literal "a", .multi]⟩ ∧
      uncollapsed " a/+/#/+" = [.literal "a", .single, .multi, .single] ∧
      (∀ candidate,
        (Pattern.ofSegments [.literal "a", .single, .multi, .single]).accepts candidate = true →
          (Pattern.ofSegments [.literal "a", .multi]).accepts candidate = true) ∧
      ∃ candidate, (Pattern.ofSegments [.literal "a", .multi]).accepts candidate = true ∧
        (Pattern.ofSegments [.literal "a", .single, .multi, .single]).accepts candidate =
          false := by
  have htitle : canonicalize " a/+/#/+" = .ok ⟨[.literal "a", .multi]⟩ := by decide
  have hsegments : uncollapsed " a/+/#/+" = [.literal "a", .single, .multi, .single] := by decide
  have htouches : Segment.Touches [.literal "a", .single, .multi, .single] := by decide
  have hall := accepts_uncollapsed htitle
  rw [hsegments] at hall
  exact ⟨htitle, hsegments, hall.1, hall.2.2 htouches⟩

end Title

end PubSub
