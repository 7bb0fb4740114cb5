import PubSub.Proofs.Title.Tokens

/-! # The grammar of canonical titles

* **`Title.IsCanonicalPath ss`** — the grammar of a canonical title on its segments: words and
  wildcards, `#` at the end only and no `+` right in front of it.
* **`Title.IsCanonicalText text`** — the texts of such segments that are short enough.
* **`Title.canonicalText_iff`** — these are the texts that canonicalization yields, and the texts
  that it leaves as they are; canonicalizing a second time changes nothing. -/

namespace PubSub

namespace Title

/-! ## (1) The grammar -/

/-- The **segments of a canonical title**. -/
structure IsCanonicalPath (ss : List Segment) : Prop where
  /-- There is a segment. -/
  ne_nil : ss ≠ []
  /-- Every segment is a word or a wildcard. -/
  isValid : ∀ s ∈ ss, s.isValid = true
  /-- `#` is the last segment if it is there. -/
  multi_last : .multi ∉ ss.dropLast
  /-- No `+` stands right in front of `#`. -/
  not_single_multi : ¬[.single, .multi] <:+: ss

/-- The **canonical texts**: a separator, then segments with separators between, of at most 254
bytes in all. -/
def IsCanonicalText (text : String) : Prop :=
  ∃ ss, IsCanonicalPath ss ∧ text = "/" ++ "/".intercalate (ss.map Segment.text) ∧
    text.utf8ByteSize ≤ 254

/-! ## (2) What canonicalization yields -/

/-- A list from which absorbing leaves `#` in front reaches the `#`. -/
theorem reachesHash_of_head?_absorb {ts : List (List Char)}
    (h : (absorb false ts).head? = some ['#']) : reachesHash ts = true := by
  induction ts with
  | nil => cases h
  | cons t ts ih =>
    by_cases hp : t = ['+']
    · rw [hp, absorb_single, Bool.false_or] at h
      by_cases hreach : reachesHash ts = true
      · rw [hp, reachesHash, List.dropWhile_cons_of_pos (by decide)]
        exact hreach
      · rw [if_neg hreach] at h
        cases h
    · by_cases hh : t = ['#']
      · rw [hh]
        rfl
      · rw [absorb_other hp hh, List.head?_cons, Option.some_inj] at h
        exact absurd h hh

/-- **Absorbing leaves no `+` in front of `#`.** -/
theorem not_infix_absorb (touching : Bool) (ts : List (List Char)) :
    ¬[['+'], ['#']] <:+: absorb touching ts := by
  induction ts generalizing touching with
  | nil => simp
  | cons t ts ih =>
    by_cases hp : t = ['+']
    · rw [hp, absorb_single]
      by_cases hreach : (touching || reachesHash ts) = true
      · rw [if_pos hreach]
        exact ih touching
      · -- the `+` stays, so what follows it does not begin with `#`
        rw [if_neg hreach, List.infix_cons_iff, List.cons_prefix_cons]
        rw [Bool.or_eq_true, not_or, Bool.not_eq_true] at hreach
        rintro (⟨-, hnext⟩ | hrest)
        · obtain ⟨rest, hrest⟩ := hnext
          refine hreach.2 (reachesHash_of_head?_absorb ?_)
          rw [hreach.1] at hrest
          rw [← hrest]
          rfl
        · exact ih touching hrest
    · by_cases hh : t = ['#']
      · rw [hh, absorb_hash, List.infix_cons_iff, List.cons_prefix_cons]
        rintro (⟨heq, -⟩ | hrest)
        · exact absurd heq (by decide)
        · exact ih true hrest
      · rw [absorb_other hp hh, List.infix_cons_iff, List.cons_prefix_cons]
        rintro (⟨heq, -⟩ | hrest)
        · exact hp heq.symm
        · exact ih false hrest

/-- The segments that are accepted as a title. -/
theorem ofSegments_eq_ok_iff {ss : List Segment} {title : Title} :
    ofSegments ss = .ok title ↔
      (∀ s ∈ ss, s.isValid = true) ∧ ss ≠ [] ∧ hashLast ss = true ∧
        (text ⟨ss⟩).utf8ByteSize ≤ 254 ∧ title = ⟨ss⟩ := by
  rw [ofSegments]
  -- The checks in their order: each segment, their number, the place of the `#`, the length.
  cases hfind : ss.find? (!·.isValid) with
  | some s =>
    have hs := List.find?_some hfind
    have hmem := List.mem_of_find?_eq_some hfind
    simp only [reduceCtorEq, false_iff]
    rintro ⟨hvalid, -⟩
    rw [hvalid s hmem] at hs
    cases hs
  | none =>
    have hvalid : ∀ s ∈ ss, s.isValid = true := by simpa using hfind
    by_cases hne : ss = []
    · simp [hne]
    by_cases hlast : hashLast ss = true
    · have hmax : maxTitleLength = 254 := rfl
      simp only [List.isEmpty_iff, hne, hlast, Bool.not_true, Bool.false_eq_true, if_false]
      by_cases hlong : maxTitleLength < (text ⟨ss⟩).utf8ByteSize
      · have hnot : ¬(text ⟨ss⟩).utf8ByteSize ≤ 254 := by omega
        simp [hlong, hnot]
      · have hle : (text ⟨ss⟩).utf8ByteSize ≤ 254 := by omega
        rw [if_neg hlong, Except.ok.injEq]
        constructor
        · rintro rfl
          exact ⟨hvalid, hne, trivial, hle, rfl⟩
        · rintro ⟨-, -, -, -, rfl⟩
          rfl
    · simp [hne, hlast]

/-- The raw titles that canonicalization accepts. -/
theorem canonicalize_eq_ok_iff {raw : String} {title : Title} :
    canonicalize raw = .ok title ↔
      raw ≠ "/" ∧ raw ≠ "" ∧ raw.toList.count '#' ≤ 1 ∧
        (prepare raw.toList).isEmpty = false ∧
          ofSegments (splitSegments (prepare raw.toList)) = .ok title := by
  rw [canonicalize]
  by_cases hroot : raw = "/"
  · simp [hroot]
  by_cases hempty : raw = ""
  · simp [hempty]
  by_cases hmany : 1 < raw.toList.count '#'
  · have hnot : ¬raw.toList.count '#' ≤ 1 := by omega
    simp [hroot, hempty, hmany, hnot]
  have hcount : raw.toList.count '#' ≤ 1 := by omega
  cases hprep : (prepare raw.toList).isEmpty <;>
    simp [hroot, hempty, hmany, hcount, hprep]

/-- **Canonicalization yields titles of the grammar.** -/
theorem isCanonicalPath_of_canonicalize {raw : String} {title : Title}
    (h : canonicalize raw = .ok title) :
    IsCanonicalPath title.segments ∧ title.text.utf8ByteSize ≤ 254 := by
  obtain ⟨-, -, hcount, -, hsegments⟩ := canonicalize_eq_ok_iff.mp h
  rw [splitSegments_prepare hcount, ofSegments_eq_ok_iff] at hsegments
  obtain ⟨hvalid, hne, hlast, hlength, rfl⟩ := hsegments
  refine ⟨⟨hne, hvalid, (hashLast_iff _).mp hlast, fun hpair => ?_⟩, hlength⟩
  -- back at the tokens, where absorbing has removed the `+`
  have htokens := hpair.map fun s : Segment => s.text.toList
  rw [List.map_map] at htokens
  have hid : ((fun s : Segment => s.text.toList) ∘ segmentOf) = id := by
    funext t
    rw [Function.comp_apply, text_segmentOf, String.toList_ofList]
    rfl
  rw [hid, List.map_id] at htokens
  exact not_infix_absorb _ _ htokens

/-! ## (3) Texts that stay as they are -/

/-- The codes of the characters of words lie between those of `-` and `z`. -/
theorem toNat_of_isWordChar {c : Char} (h : isWordChar c = true) :
    45 ≤ c.toNat ∧ c.toNat ≤ 122 := by
  have hle : ∀ {d e : UInt32}, d ≤ e → d.toNat ≤ e.toNat := UInt32.le_iff_toNat_le.mp
  rw [isWordChar, Bool.or_eq_true, Bool.or_eq_true, Bool.or_eq_true, beq_iff_eq, beq_iff_eq] at h
  rcases h with ((hdigit | halpha) | rfl) | rfl
  · obtain ⟨hlo, hhi⟩ := Char.isDigit_iff_toNat.mp hdigit
    exact ⟨Nat.le_trans (by decide) hlo, Nat.le_trans hhi (by decide)⟩
  · have hletter : (decide ('A'.val ≤ c.val ∧ c.val ≤ 'Z'.val) ||
        (decide ('a'.val ≤ c.val) && decide (c.val ≤ 'z'.val))) = true := halpha
    rw [Bool.or_eq_true, Bool.and_eq_true, decide_eq_true_iff, decide_eq_true_iff,
      decide_eq_true_iff] at hletter
    rcases hletter with ⟨hlo, hhi⟩ | ⟨hlo, hhi⟩
    · exact ⟨Nat.le_trans (by decide) (hle hlo), Nat.le_trans (hle hhi) (by decide)⟩
    · exact ⟨Nat.le_trans (by decide) (hle hlo), Nat.le_trans (hle hhi) (by decide)⟩
  · decide
  · decide

/-- A character of a word is no blank. -/
theorem isBlank_of_isWordChar {c : Char} (h : isWordChar c = true) : isBlank c = false := by
  obtain ⟨hlo, hhi⟩ := toNat_of_isWordChar h
  simp only [isBlank, Bool.or_eq_false_iff, Bool.and_eq_false_iff, decide_eq_false_iff_not,
    beq_eq_false_iff_ne]
  omega

/-- The characters of a word are read into the piece. -/
theorem cut_append_word {word : List Char} (h : ∀ c ∈ word, isWordChar c = true)
    (piece cs : List Char) : cut piece (word ++ cs) = cut (piece ++ word) cs := by
  induction word generalizing piece with
  | nil => simp
  | cons c word ih =>
    have hc := h c List.mem_cons_self
    have hs : c ≠ '/' := by
      rintro rfl
      exact absurd hc (by decide)
    have hw : ¬(c = '+' ∨ c = '#') := by
      rintro (rfl | rfl) <;> exact absurd hc (by decide)
    rw [List.cons_append, cut_other hs hw, ih fun d hd => h d (List.mem_cons_of_mem c hd),
      List.append_assoc, List.singleton_append]

/-- **Cutting a canonical text gives back the texts of its segments.** -/
theorem cut_chars {ss : List Segment} (h : ∀ s ∈ ss, s.isValid = true) (piece : List Char) :
    cut piece (chars ⟨ss⟩) = endPiece piece ++ ss.map fun s => s.text.toList := by
  induction ss generalizing piece with
  | nil => simp
  | cons s ss ih =>
    have hs := h s List.mem_cons_self
    have hss := ih fun s' hs' => h s' (List.mem_cons_of_mem s hs')
    rw [chars_cons, show separator = '/' from rfl, cut_separator, List.map_cons]
    -- A word is gathered up to the next separator, a wildcard is a piece at once.
    cases s with
    | literal word =>
      rw [Segment.isValid, isWord, Bool.and_eq_true, List.all_eq_true] at hs
      have hone : endPiece word.toList = [word.toList] := if_neg (by simpa using hs.1)
      rw [Segment.text_literal, cut_append_word hs.2, List.nil_append, hss, hone]
      rfl
    | single =>
      rw [show Segment.single.text.toList = ['+'] from rfl, List.singleton_append,
        cut_wildcard (Or.inl rfl), hss]
      rfl
    | multi =>
      rw [show Segment.multi.text.toList = ['#'] from rfl, List.singleton_append,
        cut_wildcard (Or.inr rfl), hss]
      rfl

/-- The text of a valid segment names the segment. -/
theorem segmentOf_toList_text {s : Segment} (h : s.isValid = true) :
    segmentOf s.text.toList = s := by
  cases s with
  | literal word =>
    have hp : word ≠ "+" := by
      rintro rfl
      exact absurd h (by decide)
    have hh : word ≠ "#" := by
      rintro rfl
      exact absurd h (by decide)
    rw [segmentOf, Segment.text_literal, String.ofList_toList, Segment.ofText, if_neg hp, if_neg hh]
  | single => rfl
  | multi => rfl

/-- The characters of a canonical text. -/
theorem mem_chars {ss : List Segment} (h : ∀ s ∈ ss, s.isValid = true) {c : Char}
    (hc : c ∈ chars ⟨ss⟩) : c = '/' ∨ c = '+' ∨ c = '#' ∨ isWordChar c = true := by
  rw [chars, List.mem_flatMap] at hc
  obtain ⟨s, hs, hc⟩ := hc
  rcases List.mem_cons.mp hc with rfl | hc
  · exact Or.inl rfl
  · cases s with
    | literal word =>
      have hword := h _ hs
      rw [Segment.isValid, isWord, Bool.and_eq_true, List.all_eq_true] at hword
      exact Or.inr (Or.inr (Or.inr (hword.2 c hc)))
    | single => exact Or.inr (Or.inl (List.mem_singleton.mp hc))
    | multi => exact Or.inr (Or.inr (Or.inl (List.mem_singleton.mp hc)))

/-- A canonical text holds no blanks to trim. -/
theorem trim_chars {ss : List Segment} (h : ∀ s ∈ ss, s.isValid = true) :
    trim isBlank (chars ⟨ss⟩) = chars ⟨ss⟩ := by
  refine trim_eq_self fun c hc => ?_
  rcases mem_chars h hc with rfl | rfl | rfl | hword
  · decide
  · decide
  · decide
  · exact isBlank_of_isWordChar hword

/-- The `#` characters of a canonical text are its `#` segments. -/
theorem count_hash_chars {ss : List Segment} (h : ∀ s ∈ ss, s.isValid = true) :
    (chars ⟨ss⟩).count '#' = ss.count .multi := by
  induction ss with
  | nil => rfl
  | cons s ss ih =>
    have hs := h s List.mem_cons_self
    rw [chars_cons, List.count_cons_of_ne (by decide), List.count_append, List.count_cons,
      ih fun s' hs' => h s' (List.mem_cons_of_mem s hs'), Nat.add_comm]
    congr 1
    cases s with
    | literal word =>
      rw [Segment.isValid, isWord, Bool.and_eq_true, List.all_eq_true] at hs
      refine List.count_eq_zero.mpr fun hmem => ?_
      exact absurd (hs.2 '#' hmem) (by decide)
    | single => rfl
    | multi => rfl

/-- The kind of a title shows in its text. -/
theorem isWildcard_iff_mem_chars {ss : List Segment} (h : ∀ s ∈ ss, s.isValid = true) :
    isWildcard ⟨ss⟩ = true ↔ '+' ∈ chars ⟨ss⟩ ∨ '#' ∈ chars ⟨ss⟩ := by
  induction ss with
  | nil => simp [isWildcard]
  | cons s ss ih =>
    have hs := h s List.mem_cons_self
    have htail := ih fun s' hs' => h s' (List.mem_cons_of_mem s hs')
    have hsep : '+' ≠ separator ∧ '#' ≠ separator := by decide
    rw [isWildcard] at htail ⊢
    rw [List.any_cons, Bool.or_eq_true, htail, chars_cons]
    cases s with
    | literal word =>
      -- a word holds neither wildcard
      rw [Segment.isValid, isWord, Bool.and_eq_true, List.all_eq_true] at hs
      have hp : '+' ∉ word.toList := fun hmem => absurd (hs.2 '+' hmem) (by decide)
      have hh : '#' ∉ word.toList := fun hmem => absurd (hs.2 '#' hmem) (by decide)
      simp [hsep, hp, hh]
    | single => simp
    | multi => simp

/-- `#` at the end only is `#` at most once. -/
theorem count_multi_le_one {ss : List Segment} (h : .multi ∉ ss.dropLast) :
    ss.count .multi ≤ 1 := by
  rcases List.eq_nil_or_concat' ss with rfl | ⟨front, last, rfl⟩
  · simp
  · rw [List.dropLast_concat] at h
    rw [List.count_append, List.count_eq_zero.mpr h, Nat.zero_add]
    exact List.count_le_length

/-- Without a `+` in front of a last `#`, nothing is absorbed. -/
theorem absorb_eq_self {ts : List (List Char)} (hlast : ['#'] ∉ ts.dropLast)
    (hpair : ¬[['+'], ['#']] <:+: ts) : absorb false ts = ts := by
  rcases List.eq_nil_or_concat' ts with rfl | ⟨front, last, rfl⟩
  · rfl
  rw [List.dropLast_concat] at hlast
  by_cases hh : last = ['#']
  · subst hh
    have hkeep : front.rdropWhile (· == ['+']) = front := by
      rcases List.eq_nil_or_concat' front with rfl | ⟨front, t, rfl⟩
      · rfl
      · refine List.rdropWhile_concat_neg _ _ _ fun hp => hpair ⟨front, [], ?_⟩
        rw [beq_iff_eq.mp hp]
        simp
    rw [absorb_append_hash hlast List.not_mem_nil, hkeep, List.dropWhile_nil]
  · exact absorb_of_notMem (by simp [hlast, Ne.symm hh])

/-- **A text of the grammar stays as it is**: it is the title of its segments. -/
theorem canonicalize_text {ss : List Segment} (h : IsCanonicalPath ss)
    (hlength : (text ⟨ss⟩).utf8ByteSize ≤ 254) : canonicalize (text ⟨ss⟩) = .ok ⟨ss⟩ := by
  have hcut : cut [] (chars ⟨ss⟩) = ss.map fun s => s.text.toList := cut_chars h.isValid []
  have hne : cut [] (chars ⟨ss⟩) ≠ [] := by
    rw [hcut]
    simpa using h.ne_nil
  have hcount : (chars ⟨ss⟩).count '#' ≤ 1 := by
    rw [count_hash_chars h.isValid]
    exact count_multi_le_one h.multi_last
  have hall : (chars ⟨ss⟩).all (· == '/') = false := by
    rw [← Bool.not_eq_true]
    exact fun hall => hne ((cut_eq_nil_iff _ _).mpr ⟨rfl, hall⟩)
  have hsegments : (ss.map fun s => s.text.toList).map segmentOf = ss := by
    rw [List.map_map]
    exact (List.map_congr_left fun s hs => segmentOf_toList_text (h.isValid s hs)).trans
      (List.map_id ss)
  have habsorb : absorb false (cut [] (chars ⟨ss⟩)) = ss.map fun s => s.text.toList := by
    -- both conditions hold of the segments, and `segmentOf` carries them back
    rw [hcut]
    apply absorb_eq_self
    · intro hmem
      have hmulti := List.mem_map_of_mem (f := segmentOf) hmem
      rw [List.map_dropLast, hsegments] at hmulti
      exact h.multi_last hmulti
    · intro hpair
      have hsingle := hpair.map segmentOf
      rw [hsegments] at hsingle
      exact h.not_single_multi hsingle
  rw [canonicalize_eq_ok_iff, toList_text, isEmpty_prepare hcount, splitSegments_prepare hcount,
    trim_chars h.isValid, habsorb, hsegments, ofSegments_eq_ok_iff]
  refine ⟨?_, ?_, hcount, hall, h.isValid, h.ne_nil, (hashLast_iff ss).mpr h.multi_last, hlength,
    rfl⟩
  · intro hroot
    rw [← toList_text, hroot] at hne
    exact hne rfl
  · intro hempty
    rw [← toList_text, hempty] at hne
    exact hne rfl

/-! ## (4) Three descriptions of canonical texts -/

/-- A title that canonicalization yields is what canonicalization makes of its text. -/
theorem canonicalize_text_of_canonicalize {raw : String} {title : Title}
    (h : canonicalize raw = .ok title) : canonicalize title.text = .ok title :=
  have ⟨hpath, hlength⟩ := isCanonicalPath_of_canonicalize h
  canonicalize_text hpath hlength

/-- Canonicalization leaves as they are exactly the texts of the grammar. -/
theorem canonicalize_eq_self_iff (t : String) :
    (∃ title, canonicalize t = .ok title ∧ title.text = t) ↔ IsCanonicalText t := by
  constructor
  · rintro ⟨title, h, rfl⟩
    obtain ⟨hpath, hlength⟩ := isCanonicalPath_of_canonicalize h
    exact ⟨title.segments, hpath, text_eq_intercalate hpath.ne_nil, hlength⟩
  · rintro ⟨ss, hpath, htext, hlength⟩
    rw [← text_eq_intercalate hpath.ne_nil] at htext
    subst htext
    exact ⟨⟨ss⟩, canonicalize_text hpath hlength, rfl⟩

/-- **Canonical texts**: what canonicalization yields, what it leaves as it is, and what the grammar
describes are the same texts; and canonicalizing twice is canonicalizing once, with the same
segments and the same kind. -/
theorem canonicalText_iff (t : String) :
    ((∃ raw title, canonicalize raw = .ok title ∧ title.text = t) ↔
        ∃ title, canonicalize t = .ok title ∧ title.text = t) ∧
      ((∃ title, canonicalize t = .ok title ∧ title.text = t) ↔ IsCanonicalText t) ∧
      ∀ raw, ((canonicalize raw).bind fun title => canonicalize title.text) = canonicalize raw := by
  refine ⟨⟨?_, ?_⟩, canonicalize_eq_self_iff t, fun raw => ?_⟩
  · rintro ⟨raw, title, h, rfl⟩
    exact ⟨title, canonicalize_text_of_canonicalize h, rfl⟩
  · rintro ⟨title, h, rfl⟩
    exact ⟨title.text, title, h, rfl⟩
  · cases h : canonicalize raw with
    | error e => rfl
    | ok title => exact canonicalize_text_of_canonicalize h

end Title

end PubSub
