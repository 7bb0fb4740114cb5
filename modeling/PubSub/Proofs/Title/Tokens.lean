import PubSub.Proofs.Title.Preparation

/-! # Tokens of a raw title

`Title.canonicalize` rewrites the raw text three times before it splits it. This file gives the same
answer in one pass over the trimmed text, and proves the two equal.

* **`Title.cut piece cs`** — the tokens of a text: it is cut at every separator and wildcard, empty
  pieces are dropped, and each wildcard is a token of its own.
* **`Title.absorb`** — the tokens without every `+` that only other `+` keep from the `#`.
* **`Title.tokenize raw`** — the reference: what a raw title says, as a `Title.Reading`, or the
  first rule it breaks.
* **`Title.canonicalize_eq_tokenize`** — canonicalization tells exactly what `Title.tokenize` tells.

The two meet at the tokens: isolating and splitting is `cut` (`pieces_isolateWildcards`), and
shrinking the run before cutting is `absorb` after it (`Title.cut_shrinkRun`). -/

namespace PubSub

namespace Title

/-! ## (1) The reference tokenizer -/

/-- The piece read since the last cut is a token unless it is empty. -/
def endPiece (piece : List Char) : List (List Char) := if piece.isEmpty then [] else [piece]

/-- **Cut** a text in one pass; `piece` is what was read since the last cut. -/
def cut (piece : List Char) : List Char → List (List Char)
  | [] => endPiece piece
  | c :: cs =>
    if c = '/' then endPiece piece ++ cut [] cs
    else if c = '+' ∨ c = '#' then endPiece piece ++ [c] :: cut [] cs
    else cut (piece ++ [c]) cs

/-- The end of the text ends the last piece. -/
@[simp] theorem cut_nil (piece : List Char) : cut piece [] = endPiece piece := rfl

/-- A separator ends a piece. -/
theorem cut_separator (piece cs : List Char) :
    cut piece ('/' :: cs) = endPiece piece ++ cut [] cs := by
  rw [cut, if_pos rfl]

/-- A wildcard ends a piece and is one itself. -/
theorem cut_wildcard {c : Char} (h : c = '+' ∨ c = '#') (piece cs : List Char) :
    cut piece (c :: cs) = endPiece piece ++ [c] :: cut [] cs := by
  have hs : c ≠ '/' := by rcases h with rfl | rfl <;> decide
  rw [cut, if_neg hs, if_pos h]

/-- Any other character goes on with the piece. -/
theorem cut_other {c : Char} (hs : c ≠ '/') (hw : ¬(c = '+' ∨ c = '#')) (piece cs : List Char) :
    cut piece (c :: cs) = cut (piece ++ [c]) cs := by
  rw [cut, if_neg hs, if_neg hw]

/-- Whether the first token other than `+` is the `#`. -/
def reachesHash (tokens : List (List Char)) : Bool :=
  (tokens.dropWhile (· == ['+'])).head? == some ['#']

/-- **Absorb**: delete every `+` that is connected to the `#` through `+` only. `touching` tells
whether the last token other than `+` was the `#`. -/
def absorb (touching : Bool) : List (List Char) → List (List Char)
  | [] => []
  | t :: ts =>
    if t = ['+'] then
      if touching || reachesHash ts then absorb touching ts else t :: absorb touching ts
    else t :: absorb (t == ['#']) ts

@[simp] theorem absorb_nil (touching : Bool) : absorb touching [] = [] := rfl

/-- A `+` that touches a `#` is absorbed, and any other stays. -/
theorem absorb_single (touching : Bool) (ts : List (List Char)) :
    absorb touching (['+'] :: ts) =
      if touching || reachesHash ts then absorb touching ts else ['+'] :: absorb touching ts := by
  rw [absorb, if_pos rfl]

/-- A `#` stays, and what follows touches it. -/
theorem absorb_hash (touching : Bool) (ts : List (List Char)) :
    absorb touching (['#'] :: ts) = ['#'] :: absorb true ts := by
  rw [absorb, if_neg (by decide)]
  rfl

/-- A word stays, and nothing touches a `#` across it. -/
theorem absorb_other {t : List Char} (hp : t ≠ ['+']) (hh : t ≠ ['#']) (touching : Bool)
    (ts : List (List Char)) : absorb touching (t :: ts) = t :: absorb false ts := by
  rw [absorb, if_neg hp, beq_eq_false_iff_ne.mpr hh]

/-- Whether a token may stand in a title: a wildcard, or a word. -/
def isToken (t : List Char) : Bool := t == ['+'] || t == ['#'] || isWord t

/-- What a title **says**: its text, the texts of its segments, and whether it holds a wildcard. -/
structure Reading where
  text : String
  segments : List String
  wildcard : Bool
  deriving DecidableEq, Repr

/-- The reading of a title. -/
def reading (t : Title) : Reading where
  text := t.text
  segments := t.segments.map Segment.text
  wildcard := t.isWildcard

/-- **The reference tokenizer**: what a raw title says, or the first rule it breaks. -/
def tokenize (raw : String) : Except TitleError Reading :=
  if raw = "/" then .error .root
  else if raw = "" then .error .empty
  else if 1 < raw.toList.count '#' then .error .multipleHash
  else
    let stripped := trim isBlank raw.toList
    if stripped.all (· == '/') then .error .trimmedEmpty
    else
      let tokens := absorb false (cut [] stripped)
      match tokens.find? (!isToken ·) with
      | some t => .error (.invalidSegment (String.ofList t))
      | none =>
        if ['#'] ∈ tokens.dropLast then .error .hashNotLast
        else
          let words := tokens.map String.ofList
          let text := "/" ++ "/".intercalate words
          if 254 < text.utf8ByteSize then .error (.tooLong text.utf8ByteSize)
          else .ok ⟨text, words, raw.toList.any fun c => c == '+' || c == '#'⟩

end Title

/-! ## (2) Cutting and absorbing -/

namespace Title

/-- What ends every piece in front of it is cut apart from what it follows. -/
theorem cut_append {ys : List Char} {ts : List (List Char)}
    (h : ∀ piece, cut piece ys = endPiece piece ++ ts) (piece xs : List Char) :
    cut piece (xs ++ ys) = cut piece xs ++ ts := by
  induction xs generalizing piece with
  | nil => rw [List.nil_append, cut_nil, h]
  | cons c xs ih =>
    rw [List.cons_append]
    by_cases hs : c = '/'
    · rw [hs, cut_separator, cut_separator, ih, List.append_assoc]
    · by_cases hw : c = '+' ∨ c = '#'
      · rw [cut_wildcard hw, cut_wildcard hw, ih, List.append_assoc, List.cons_append]
      · rw [cut_other hs hw, cut_other hs hw, ih]

/-- A separator ends the piece before it. -/
theorem cut_append_separator (piece xs ys : List Char) :
    cut piece (xs ++ '/' :: ys) = cut piece xs ++ cut [] ys :=
  cut_append (fun piece => cut_separator piece ys) piece xs

/-- A wildcard ends the piece before it and is a token of its own. -/
theorem cut_append_wildcard {w : Char} (h : w = '+' ∨ w = '#') (piece xs ys : List Char) :
    cut piece (xs ++ w :: ys) = cut piece xs ++ [w] :: cut [] ys :=
  cut_append (fun piece => cut_wildcard h piece ys) piece xs

/-- A begun piece begins the first token. -/
theorem exists_cut_cons (c : Char) (piece cs : List Char) :
    ∃ rest ts, cut (c :: piece) cs = (c :: rest) :: ts := by
  induction cs generalizing piece with
  | nil => exact ⟨piece, [], rfl⟩
  | cons d cs ih =>
    by_cases hs : d = '/'
    · exact ⟨piece, cut [] cs, by rw [hs, cut_separator]; rfl⟩
    · by_cases hw : d = '+' ∨ d = '#'
      · exact ⟨piece, [d] :: cut [] cs, by rw [cut_wildcard hw]; rfl⟩
      · obtain ⟨rest, ts, heq⟩ := ih (piece ++ [d])
        exact ⟨rest, ts, by rw [cut_other hs hw, List.cons_append, heq]⟩

/-- A last character that is neither separator nor wildcard ends the last token. -/
theorem exists_cut_append_singleton {c : Char} (hs : c ≠ '/') (hw : ¬(c = '+' ∨ c = '#'))
    (piece cs : List Char) : ∃ ts front, cut piece (cs ++ [c]) = ts ++ [front ++ [c]] := by
  induction cs generalizing piece with
  | nil =>
    refine ⟨[], piece, ?_⟩
    rw [List.nil_append, cut_other hs hw, cut_nil, endPiece, if_neg (by simp), List.nil_append]
  | cons d cs ih =>
    rw [List.cons_append]
    by_cases hds : d = '/'
    · obtain ⟨ts, front, heq⟩ := ih []
      exact ⟨endPiece piece ++ ts, front, by rw [hds, cut_separator, heq, List.append_assoc]⟩
    · by_cases hdw : d = '+' ∨ d = '#'
      · obtain ⟨ts, front, heq⟩ := ih []
        refine ⟨endPiece piece ++ [d] :: ts, front, ?_⟩
        rw [cut_wildcard hdw, heq, List.append_assoc, List.cons_append]
      · obtain ⟨ts, front, heq⟩ := ih (piece ++ [d])
        exact ⟨ts, front, by rw [cut_other hds hdw, heq]⟩

/-- A piece is no wildcard that it does not hold. -/
theorem singleton_notMem_endPiece {w : Char} {piece : List Char} (h : w ∉ piece) :
    [w] ∉ endPiece piece := by
  rw [endPiece]
  split
  · exact List.not_mem_nil
  · rw [List.mem_singleton]
    rintro rfl
    exact h (List.mem_singleton_self w)

/-- The tokens that are a wildcard are the wildcard characters of the text. -/
theorem singleton_mem_cut_iff {w : Char} (h : w = '+' ∨ w = '#') {piece : List Char}
    (hpiece : w ∉ piece) (cs : List Char) : [w] ∈ cut piece cs ↔ w ∈ cs := by
  have hnil : w ∉ ([] : List Char) := List.not_mem_nil
  induction cs generalizing piece with
  | nil => simpa using singleton_notMem_endPiece hpiece
  | cons c cs ih =>
    have hend := singleton_notMem_endPiece hpiece
    by_cases hs : c = '/'
    · -- a separator ends the piece, in which `w` does not occur
      have hne : w ≠ c := by rcases h with rfl | rfl <;> rw [hs] <;> decide
      have hcs := ih hnil
      rw [hs, cut_separator, ← hs]
      simp [hend, hne, hcs]
    · by_cases hw : c = '+' ∨ c = '#'
      · have hcs := ih hnil
        rw [cut_wildcard hw]
        simp [hend, hcs]
      · -- any other character joins the piece, so the piece still does not hold `w`
        have hne : w ≠ c := fun heq => hw (heq ▸ h)
        have hnext : w ∉ piece ++ [c] := by simp [hpiece, hne]
        rw [cut_other hs hw, List.mem_cons]
        exact (ih hnext).trans (or_iff_right hne).symm

/-- A text without tokens holds separators only. -/
theorem cut_eq_nil_iff (piece cs : List Char) :
    cut piece cs = [] ↔ piece = [] ∧ cs.all (· == '/') = true := by
  have hend : ∀ p : List Char, endPiece p = [] ↔ p = [] := by
    intro p
    cases p <;> simp [endPiece]
  induction cs generalizing piece with
  | nil => simp [hend]
  | cons c cs ih =>
    by_cases hs : c = '/'
    · rw [hs, cut_separator]
      simp [hend, ih]
    · by_cases hw : c = '+' ∨ c = '#'
      · rw [cut_wildcard hw]
        simp [hs]
      · rw [cut_other hs hw]
        simp [ih, hs]

/-- Run characters at the start cut into `+` tokens at the start. -/
theorem cut_dropWhile (cs : List Char) :
    cut [] (cs.dropWhile isRunChar) = (cut [] cs).dropWhile (· == ['+']) := by
  induction cs with
  | nil => rfl
  | cons c cs ih =>
    by_cases hs : c = '/'
    · rw [hs, List.dropWhile_cons_of_pos (by decide), ih, cut_separator]
      rfl
    · by_cases hp : c = '+'
      · rw [hp, List.dropWhile_cons_of_pos (by decide), ih, cut_wildcard (Or.inl rfl)]
        rfl
      · -- the text stays, and its first token begins with a character other than `+`
        have hrun : isRunChar c = false := by simp [isRunChar, separator, hs, hp]
        rw [List.dropWhile_cons_of_neg (by simp [hrun])]
        by_cases hw : c = '+' ∨ c = '#'
        · rw [cut_wildcard hw]
          exact (List.dropWhile_cons_of_neg (by simpa using hp)).symm
        · obtain ⟨rest, ts, heq⟩ := exists_cut_cons c [] cs
          rw [cut_other hs hw, List.nil_append, heq]
          exact (List.dropWhile_cons_of_neg (by simpa using fun h => absurd h hp)).symm

/-- Run characters at the end cut into `+` tokens at the end. -/
theorem cut_rdropWhile (cs : List Char) :
    cut [] (cs.rdropWhile isRunChar) = (cut [] cs).rdropWhile (· == ['+']) := by
  have hnil : cut [] [] = [] := rfl
  induction cs using List.reverseRecOn with
  | nil => rfl
  | append_singleton cs c ih =>
    by_cases hs : c = '/'
    · rw [hs, List.rdropWhile_concat_pos _ _ _ (by decide), ih, cut_append_separator, hnil,
        List.append_nil]
    · by_cases hw : c = '+' ∨ c = '#'
      · rw [cut_append_wildcard hw, hnil]
        rcases hw with rfl | rfl
        · rw [List.rdropWhile_concat_pos _ _ _ (by decide), ih,
            List.rdropWhile_concat_pos _ _ _ (by decide)]
        · rw [List.rdropWhile_concat_neg _ _ _ (by decide),
            List.rdropWhile_concat_neg _ _ _ (by decide), cut_append_wildcard (Or.inr rfl), hnil]
      · -- the text stays, and its last token ends in a character other than `+`
        have hrun : isRunChar c = false := by
          rw [not_or] at hw
          simp [isRunChar, separator, hs, hw.1]
        obtain ⟨ts, front, heq⟩ := exists_cut_append_singleton hs hw [] cs
        rw [List.rdropWhile_concat_neg _ _ _ (by simp [hrun]), heq]
        refine (List.rdropWhile_concat_neg _ _ _ ?_).symm
        intro hplus
        have hlast := congrArg List.getLast? (beq_iff_eq.mp hplus)
        simp at hlast
        exact hw (Or.inl hlast)

/-- A list without `#` does not reach it. -/
theorem reachesHash_of_notMem {ts : List (List Char)} (h : ['#'] ∉ ts) :
    reachesHash ts = false := by
  rw [reachesHash, beq_eq_false_iff_ne]
  intro hhead
  exact h (List.dropWhile_subset _ (List.mem_of_mem_head? hhead))

/-- Without a `#` nothing is absorbed. -/
theorem absorb_of_notMem {ts : List (List Char)} (h : ['#'] ∉ ts) : absorb false ts = ts := by
  induction ts with
  | nil => rfl
  | cons t ts ih =>
    rw [List.mem_cons, not_or] at h
    by_cases hp : t = ['+']
    · rw [hp, absorb_single, reachesHash_of_notMem h.2, ih h.2]
      rfl
    · rw [absorb_other hp (Ne.symm h.1), ih h.2]

/-- Behind the `#`, the `+` tokens at the start are absorbed. -/
theorem absorb_true {ts : List (List Char)} (h : ['#'] ∉ ts) :
    absorb true ts = ts.dropWhile (· == ['+']) := by
  induction ts with
  | nil => rfl
  | cons t ts ih =>
    rw [List.mem_cons, not_or] at h
    by_cases hp : t = ['+']
    · rw [hp, absorb_single, Bool.true_or, if_pos rfl, ih h.2]
      rfl
    · -- the first token that stays ends the absorbing
      rw [absorb_other hp (Ne.symm h.1), absorb_of_notMem h.2,
        List.dropWhile_cons_of_neg (by simpa using hp)]

/-- In front of the `#`, exactly a list of `+` tokens reaches it. -/
theorem reachesHash_append_hash {ts : List (List Char)} (h : ['#'] ∉ ts)
    (rest : List (List Char)) :
    reachesHash (ts ++ ['#'] :: rest) = ts.all (· == ['+']) := by
  induction ts with
  | nil => rfl
  | cons t ts ih =>
    rw [List.mem_cons, not_or] at h
    rw [List.cons_append, List.all_cons, ← ih h.2, reachesHash]
    by_cases hp : t = ['+']
    · rw [hp, List.dropWhile_cons_of_pos (by decide)]
      rfl
    · rw [List.dropWhile_cons_of_neg (by simpa using hp), beq_eq_false_iff_ne.mpr hp,
        Bool.false_and, List.head?_cons, beq_eq_false_iff_ne, Ne, Option.some_inj]
      exact Ne.symm h.1

/-- **Absorbing around the `#`** drops the `+` tokens on both sides of it. -/
theorem absorb_append_hash {before after : List (List Char)} (hbefore : ['#'] ∉ before)
    (hafter : ['#'] ∉ after) :
    absorb false (before ++ ['#'] :: after) =
      before.rdropWhile (· == ['+']) ++ ['#'] :: after.dropWhile (· == ['+']) := by
  induction before with
  | nil =>
    rw [List.nil_append, absorb_hash, absorb_true hafter]
    rfl
  | cons t ts ih =>
    rw [List.mem_cons, not_or] at hbefore
    rw [List.cons_append, rdropWhile_cons]
    by_cases hp : t = ['+']
    · -- the `+` goes exactly if nothing but `+` stands between it and the `#`
      rw [hp, absorb_single, Bool.false_or, reachesHash_append_hash hbefore.2, ih hbefore.2]
      by_cases hall : ts.all (· == ['+']) = true
      · have hnil : ts.rdropWhile (· == ['+']) = [] :=
          List.rdropWhile_eq_nil_iff.mpr (List.all_eq_true.mp hall)
        simp [hall, hnil]
      · simp [hall]
    · rw [absorb_other hp (Ne.symm hbefore.1), ih hbefore.2]
      simp [hp]

/-- **Shrinking and cutting is cutting and absorbing.** -/
theorem cut_shrinkRun {cs : List Char} (h : cs.count '#' ≤ 1) :
    cut [] (shrinkRun cs) = absorb false (cut [] cs) := by
  have hmem_iff : ∀ ds : List Char, ['#'] ∈ cut [] ds ↔ '#' ∈ ds :=
    singleton_mem_cut_iff (Or.inr rfl) (by simp)
  rcases notMem_or_eq_append_hash h with hmem | ⟨before, after, rfl, hbefore, hafter⟩
  · rw [shrinkRun_of_notMem hmem, absorb_of_notMem (mt (hmem_iff cs).mp hmem)]
  · rw [shrinkRun_append_hash hbefore, cut_append_wildcard (Or.inr rfl),
      cut_append_wildcard (Or.inr rfl), cut_rdropWhile, cut_dropWhile,
      absorb_append_hash (mt (hmem_iff before).mp hbefore) (mt (hmem_iff after).mp hafter)]

end Title

/-! ## (3) Reading the segments -/

/-- The segment that a token names. -/
def segmentOf (t : List Char) : Segment := Segment.ofText (String.ofList t)

/-- The segment of a token is written as the token. -/
@[simp] theorem text_segmentOf (t : List Char) : (segmentOf t).text = String.ofList t :=
  Segment.text_ofText _

/-- The `#` token, and no other, names the segment `#`. -/
theorem segmentOf_eq_multi_iff (t : List Char) : segmentOf t = .multi ↔ t = ['#'] := by
  constructor
  · intro h
    have htext := congrArg Segment.text h
    rw [text_segmentOf, Segment.text_multi] at htext
    rw [← String.toList_ofList (l := t), htext]
    rfl
  · rintro rfl
    rfl

/-- Every token but the two wildcards names a literal. -/
theorem segmentOf_other {t : List Char} (hp : t ≠ ['+']) (hh : t ≠ ['#']) :
    segmentOf t = .literal (String.ofList t) := by
  have hp' : String.ofList t ≠ "+" := fun h => hp (String.ofList_injective h)
  have hh' : String.ofList t ≠ "#" := fun h => hh (String.ofList_injective h)
  rw [segmentOf, Segment.ofText, if_neg hp', if_neg hh']

/-- A segment may stand in a title exactly if its token may. -/
theorem isValid_segmentOf (t : List Char) : (segmentOf t).isValid = Title.isToken t := by
  rw [Title.isToken]
  by_cases hp : t = ['+']
  · rw [hp]
    rfl
  · by_cases hh : t = ['#']
    · rw [hh]
      rfl
    · rw [segmentOf_other hp hh, beq_eq_false_iff_ne.mpr hp, beq_eq_false_iff_ne.mpr hh]
      simp [Segment.isValid]

/-- The wildcard segments are named by the two wildcard tokens. -/
theorem isWildcard_segmentOf (t : List Char) :
    (segmentOf t).isWildcard = (t == ['+'] || t == ['#']) := by
  by_cases hp : t = ['+']
  · rw [hp]
    rfl
  · by_cases hh : t = ['#']
    · rw [hh]
      rfl
    · rw [segmentOf_other hp hh, beq_eq_false_iff_ne.mpr hp, beq_eq_false_iff_ne.mpr hh]
      rfl

/-- `#` is the last segment exactly if no segment before the last is `#`. -/
theorem hashLast_iff (ss : List Segment) : hashLast ss = true ↔ .multi ∉ ss.dropLast := by
  induction ss with
  | nil => simp [hashLast]
  | cons s ss ih =>
    cases ss with
    | nil => simp [hashLast]
    | cons s' ss =>
      rw [hashLast, Bool.and_eq_true, ih, List.dropLast_cons_cons, List.mem_cons, not_or,
        bne_iff_ne, ne_comm]
      intro h
      cases h

/-- The canonical text of segments: a separator, and then their texts with separators between. -/
theorem text_eq_intercalate {ss : List Segment} (h : ss ≠ []) :
    Title.text ⟨ss⟩ = "/" ++ "/".intercalate (ss.map Segment.text) := by
  apply String.toList_injective
  rw [Title.toList_text]
  induction ss with
  | nil => exact absurd rfl h
  | cons s ss ih =>
    rw [Title.chars_cons]
    cases ss with
    | nil => simp [separator]
    | cons s' ss =>
      rw [ih (by simp)]
      simp [String.intercalate_cons_cons, separator]

/-! ## (4) The two ways agree -/

/-- A text without separators is one piece, or none if it is empty. -/
theorem pieces_of_notMem {piece : List Char} (h : separator ∉ piece) :
    pieces piece = Title.endPiece piece := by
  rw [pieces, List.splitOn_eq_singleton h]
  cases piece <;> rfl

/-- **Isolating and splitting is cutting**, from any piece that was begun. -/
theorem pieces_isolateWildcards (cs : List Char) {piece : List Char} (h : separator ∉ piece) :
    pieces (piece ++ isolateWildcards cs) = Title.cut piece cs := by
  have hempty : separator ∉ ([] : List Char) := List.not_mem_nil
  -- every separator that is read, or put around a wildcard, parts the piece from what follows
  induction cs generalizing piece with
  | nil =>
    rw [show isolateWildcards [] = [] from rfl, List.append_nil, pieces_of_notMem h, Title.cut_nil]
  | cons c cs ih =>
    rw [isolateWildcards_cons]
    by_cases hs : c = '/'
    · rw [hs, if_neg (by decide), List.singleton_append, Title.cut_separator,
        show ('/' : Char) = separator from rfl, pieces_append_separator, pieces_of_notMem h,
        ← ih hempty, List.nil_append]
    · by_cases hw : c = '+' ∨ c = '#'
      · -- the wildcard stands between two separators, and so is a piece by itself
        have hc : separator ∉ [c] := by
          rw [List.mem_singleton]
          exact fun heq => hs heq.symm
        have hrest : pieces ([c] ++ separator :: isolateWildcards cs) =
            [c] :: Title.cut [] cs := by
          rw [pieces_append_separator, pieces_of_notMem hc, ← ih hempty, List.nil_append]
          rfl
        rw [if_pos hw.symm, Title.cut_wildcard hw, ← hrest, ← pieces_of_notMem h,
          ← pieces_append_separator]
        rfl
      · have hc : separator ∉ piece ++ [c] := by
          rw [List.mem_append, List.mem_singleton]
          rintro (hmem | heq)
          · exact h hmem
          · exact hs heq.symm
        rw [if_neg (fun hw' => hw hw'.symm), ← List.append_assoc, ih hc, Title.cut_other hs hw]

/-- **The segments of the prepared text are those that the tokens name.** -/
theorem splitSegments_prepare {cs : List Char} (h : cs.count '#' ≤ 1) :
    splitSegments (prepare cs) =
      (Title.absorb false (Title.cut [] (trim isBlank cs))).map segmentOf := by
  have hpieces : pieces (prepare cs) = Title.absorb false (Title.cut [] (trim isBlank cs)) := by
    rw [prepare_eq h, pieces_trim, ← Title.cut_shrinkRun (count_trim_le isBlank '#' h),
      ← pieces_isolateWildcards _ List.not_mem_nil, List.nil_append]
  rw [← hpieces]
  rfl

namespace Title

/-- Some token is left unless the text holds separators only. -/
theorem absorb_cut_ne_nil {cs : List Char} (h : cs.count '#' ≤ 1)
    (hall : cs.all (· == '/') = false) : absorb false (cut [] cs) ≠ [] := by
  rw [← cut_shrinkRun h, Ne, cut_eq_nil_iff]
  rintro ⟨-, hsep⟩
  rw [show ('/' : Char) = separator from rfl, all_shrinkRun h] at hsep
  rw [show ('/' : Char) = separator from rfl, hsep] at hall
  cases hall

/-- Some token is a wildcard exactly if the text holds one. -/
theorem any_isWildcard_absorb_cut {cs : List Char} (h : cs.count '#' ≤ 1) :
    ((absorb false (cut [] cs)).map segmentOf).any Segment.isWildcard =
      cs.any fun c => c == '+' || c == '#' := by
  have hplus : ['+'] ∈ cut [] (shrinkRun cs) ↔ '+' ∈ shrinkRun cs :=
    singleton_mem_cut_iff (Or.inl rfl) List.not_mem_nil _
  have hhash : ['#'] ∈ cut [] (shrinkRun cs) ↔ '#' ∈ shrinkRun cs :=
    singleton_mem_cut_iff (Or.inr rfl) List.not_mem_nil _
  have hrun := wildcard_mem_shrinkRun_iff h
  rw [← cut_shrinkRun h, Bool.eq_iff_iff, List.any_map, List.any_eq_true, List.any_eq_true]
  simp only [Function.comp_apply, isWildcard_segmentOf, Bool.or_eq_true, beq_iff_eq,
    and_or_left, exists_or, exists_eq_right]
  rw [hplus, hhash, hrun]

/-- **Accepting the segments** of some tokens: their first rule broken, or what they say. -/
theorem reading_ofSegments {ts : List (List Char)} (hne : ts ≠ []) :
    (ofSegments (ts.map segmentOf)).map reading =
      match ts.find? (!isToken ·) with
      | some t => .error (.invalidSegment (String.ofList t))
      | none =>
        if ['#'] ∈ ts.dropLast then .error .hashNotLast
        else
          let words := ts.map String.ofList
          let text := "/" ++ "/".intercalate words
          if 254 < text.utf8ByteSize then .error (.tooLong text.utf8ByteSize)
          else .ok ⟨text, words, (ts.map segmentOf).any Segment.isWildcard⟩ := by
  have hwords : (ts.map segmentOf).map Segment.text = ts.map String.ofList := by
    rw [List.map_map]
    exact List.map_congr_left fun t _ => text_segmentOf t
  have hfind : (ts.map segmentOf).find? (!·.isValid) = (ts.find? (!isToken ·)).map segmentOf := by
    rw [List.find?_map]
    simp only [Function.comp_def, isValid_segmentOf]
  have hlast : hashLast (ts.map segmentOf) = true ↔ ['#'] ∉ ts.dropLast := by
    rw [hashLast_iff, ← List.map_dropLast, List.mem_map]
    simp only [segmentOf_eq_multi_iff, exists_eq_right]
  have hmap : ts.map segmentOf ≠ [] := by simpa using hne
  rw [ofSegments, hfind]
  cases ts.find? (!isToken ·) with
  | some t => simp [Except.map]
  | none =>
    -- all tokens are valid; what is left is the place of the `#` and the length
    by_cases hh : ['#'] ∈ ts.dropLast
    · have hfalse : hashLast (ts.map segmentOf) = false := by
        rw [← Bool.not_eq_true, hlast]
        exact not_not.mpr hh
      simp [hh, hfalse, hne, Except.map]
    · have htext := text_eq_intercalate hmap
      rw [hwords] at htext
      simp only [Option.map_none, List.isEmpty_iff, hmap, if_false, hlast.mpr hh, hh, htext,
        maxTitleLength, Bool.not_true, Bool.false_eq_true]
      split
      · rfl
      · rw [Except.map, reading, hwords, htext, isWildcard]

/-- The reference has no case without segments. -/
theorem tokenize_ne_noSegments (raw : String) : tokenize raw ≠ .error .noSegments := by
  unfold tokenize
  dsimp only
  repeat' split
  all_goals exact fun h => nomatch h

/-- What canonicalization tells is what the reference tells. -/
theorem map_reading_canonicalize (raw : String) :
    (canonicalize raw).map reading = tokenize raw := by
  rw [canonicalize, tokenize]
  by_cases hroot : raw = "/"
  · rw [if_pos hroot, if_pos hroot]
    rfl
  by_cases hempty : raw = ""
  · rw [if_neg hroot, if_neg hroot, if_pos hempty, if_pos hempty]
    rfl
  by_cases hmany : 1 < raw.toList.count '#'
  · rw [if_neg hroot, if_neg hroot, if_neg hempty, if_neg hempty, if_pos hmany, if_pos hmany]
    rfl
  have hcount : raw.toList.count '#' ≤ 1 := by omega
  have hstripped := count_trim_le isBlank '#' hcount
  rw [if_neg hroot, if_neg hroot, if_neg hempty, if_neg hempty, if_neg hmany, if_neg hmany]
  simp only [isEmpty_prepare hcount]
  by_cases hall : (trim isBlank raw.toList).all (· == '/') = true
  · rw [if_pos hall, if_pos hall]
    rfl
  rw [if_neg hall, if_neg hall, splitSegments_prepare hcount,
    reading_ofSegments (absorb_cut_ne_nil hstripped (by simpa using hall)),
    any_isWildcard_absorb_cut hstripped]
  -- the wildcards of the raw text survive the trimming
  have hwild : ((trim isBlank raw.toList).any fun c => c == '+' || c == '#') =
      raw.toList.any fun c => c == '+' || c == '#' := by
    have hplus := mem_trim_iff (p := isBlank) (c := '+') (by decide) raw.toList
    have hhash := mem_trim_iff (p := isBlank) (c := '#') (by decide) raw.toList
    rw [Bool.eq_iff_iff, List.any_eq_true, List.any_eq_true]
    simp only [Bool.or_eq_true, beq_iff_eq, and_or_left, exists_or, exists_eq_right, hplus, hhash]
  rw [hwild]

/-- **Canonicalization tells what the reference tells**, and never that there are no segments. -/
theorem canonicalize_eq_tokenize (raw : String) :
    (canonicalize raw).map reading = tokenize raw ∧ canonicalize raw ≠ .error .noSegments := by
  refine ⟨map_reading_canonicalize raw, fun h => tokenize_ne_noSegments raw ?_⟩
  rw [← map_reading_canonicalize, h]
  rfl

end Title

end PubSub
