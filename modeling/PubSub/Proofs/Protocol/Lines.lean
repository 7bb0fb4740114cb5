import PubSub.Protocol.Session

/-! # The lines of a text

The input is split into lines as bytes. For the bytes of a text this is the same as to split the
text itself: no byte of another character is a line feed or a carriage return.

* **`utf8`** — the bytes of a text; **`decodeLine_eq_some_iff`** — bytes are decoded as a text if
  they are its bytes.
* **`linesOf`** — the lines of a text: the pieces between its line feeds.
* **`splitLines_utf8`** — the lines of its bytes are the bytes of its lines.
* **`IsWhole.splitLines_append`**, **`IsWhole.linesOf_append`** — whole lines are split off from
  whatever follows them.
* **`exists_utf8_or_invalid`** — any bytes are a text, or begin with whole lines of a text and then
  a line that is not UTF-8. -/

namespace PubSub

/-! ## (1) The bytes of a text -/

/-- The **bytes** of a text. -/
def utf8 (text : String) : List UInt8 := text.toUTF8.data.toList

/-- The bytes of characters. -/
def encode (cs : List Char) : List UInt8 := cs.flatMap String.utf8EncodeChar

@[simp] theorem encode_nil : encode [] = [] := rfl

/-- Characters are encoded one after the other. -/
@[simp] theorem encode_cons (c : Char) (cs : List Char) :
    encode (c :: cs) = String.utf8EncodeChar c ++ encode cs := by
  rw [encode, List.flatMap_cons, encode]

/-- Texts are encoded in two parts. -/
@[simp] theorem encode_append (cs ds : List Char) : encode (cs ++ ds) = encode cs ++ encode ds := by
  rw [encode, List.flatMap_append, encode, encode]

/-- Every character has at least one byte. -/
theorem isEmpty_encode (cs : List Char) : (encode cs).isEmpty = cs.isEmpty := by
  cases cs with
  | nil => rfl
  | cons c cs =>
    obtain ⟨b, bs, hb⟩ := List.exists_cons_of_ne_nil (String.utf8EncodeChar_ne_nil (c := c))
    rw [encode_cons, hb]
    rfl

/-- The bytes of a text are those of its characters. -/
theorem utf8_eq_encode (text : String) : utf8 text = encode text.toList := by
  rw [utf8, String.toUTF8_eq_toByteArray, ← String.utf8Encode_toList, List.utf8Encode, encode]
  simp

/-- The bytes of a text in two parts are those of the parts. -/
@[simp] theorem utf8_append (text text' : String) :
    utf8 (text ++ text') = utf8 text ++ utf8 text' := by
  rw [utf8_eq_encode, String.toList_append, encode_append, ← utf8_eq_encode, ← utf8_eq_encode]

@[simp] theorem utf8_empty : utf8 "" = [] := rfl

/-- **Bytes are decoded** as a text if they are its bytes. -/
theorem decodeLine_eq_some_iff {bytes : List UInt8} {text : String} :
    decodeLine bytes = some text ↔ bytes = utf8 text := by
  have hbytes : bytes = utf8 text ↔ (⟨bytes.toArray⟩ : ByteArray) = text.toByteArray := by
    rw [utf8, String.toUTF8_eq_toByteArray, ByteArray.ext_iff, ← Array.toList_inj]
  rw [hbytes, decodeLine, String.fromUTF8?]
  split
  next hvalid =>
    rw [Option.some.injEq, ← String.toByteArray_inj]
    rfl
  next hvalid =>
    refine ⟨nofun, fun h => absurd ?_ hvalid⟩
    rw [h]
    exact text.isValidUTF8

/-- The bytes of a text are decoded as the text. -/
@[simp] theorem decodeLine_utf8 (text : String) : decodeLine (utf8 text) = some text :=
  decodeLine_eq_some_iff.mpr rfl

/-- A byte below 128 is the **only byte of its character**. -/
theorem eq_of_mem_utf8EncodeChar {b : UInt8} {c : Char} (hb : b.toNat < 128)
    (h : b ∈ String.utf8EncodeChar c) : c.toNat = b.toNat := by
  revert h
  fun_cases String.utf8EncodeChar c with
  | case1 v hv =>
    intro h
    rw [List.mem_singleton.mp h, UInt8.toNat_ofNat']
    exact (Nat.mod_eq_of_lt (Nat.lt_of_le_of_lt hv (by decide))).symm
  | case2 | case3 | case4 =>
    -- All bytes of the other characters have their highest bit set.
    intro h
    simp only [List.mem_cons, List.not_mem_nil, or_false] at h
    rcases h with rfl | rfl | rfl | rfl <;> simp only [UInt8.toNat_ofNat'] at hb <;> omega

/-- Only a line feed has the byte of a line feed. -/
theorem lineFeed_notMem {c : Char} (hc : c ≠ '\n') : lineFeed ∉ String.utf8EncodeChar c := fun h =>
  hc (Char.toNat_inj.mp (eq_of_mem_utf8EncodeChar (by decide) h))

/-- Only a carriage return has the byte of a carriage return. -/
theorem carriageReturn_notMem {c : Char} (hc : c ≠ '\r') :
    carriageReturn ∉ String.utf8EncodeChar c := fun h =>
  hc (Char.toNat_inj.mp (eq_of_mem_utf8EncodeChar (by decide) h))

/-! ## (2) The lines of a text -/

/-- A line without a carriage return at its end. -/
def withoutReturn (line : List Char) : List Char :=
  if line.getLast? = some '\r' then line.dropLast else line

/-- One carriage return is taken off the end. -/
@[simp] theorem withoutReturn_append_return (line : List Char) :
    withoutReturn (line ++ ['\r']) = line := by
  simp [withoutReturn]

/-- A line without a carriage return at its end stays as it is. -/
theorem withoutReturn_of_getLast? {line : List Char} (h : line.getLast? ≠ some '\r') :
    withoutReturn line = line := if_neg h

/-- The lines made of the pieces between line feeds: what comes after the last line feed is a line
if there is anything, and keeps a carriage return. -/
def closePieces (pieces : List (List Char)) : List (List Char) :=
  pieces.dropLast.map withoutReturn ++ pieces.getLast?.toList.filter fun last => !last.isEmpty

/-- The **lines of a text**. -/
def linesOf (text : String) : List String :=
  (closePieces (text.toList.splitOn '\n')).map String.ofList

/-- The last piece is a line if there is anything in it; its carriage return stays. -/
theorem closePieces_singleton (piece : List Char) :
    closePieces [piece] = if piece.isEmpty then [] else [piece] := by
  cases piece <;> rfl

/-- Every other piece is a line, without the carriage return. -/
theorem closePieces_cons (piece : List Char) {pieces : List (List Char)} (h : pieces ≠ []) :
    closePieces (piece :: pieces) = withoutReturn piece :: closePieces pieces := by
  rw [closePieces, closePieces, List.dropLast_cons_of_ne_nil h, List.getLast?_cons_of_ne_nil h,
    List.map_cons, List.cons_append]

/-- A line that a line feed ends. -/
theorem linesOf_line {line : String} (h : '\n' ∉ line.toList) :
    linesOf (line ++ "\n") = [String.ofList (withoutReturn line.toList)] := by
  have hpieces : (line ++ "\n").toList.splitOn '\n' = [line.toList, []] := by
    rw [String.toList_append]
    exact List.splitOn_append_cons_self_of_not_mem h []
  rw [linesOf, hpieces]
  rfl

/-- What follows the last line feed. -/
theorem linesOf_last {last : String} (h : '\n' ∉ last.toList) :
    linesOf last = if last = "" then [] else [last] := by
  rw [linesOf, List.splitOn_eq_singleton h, closePieces_singleton]
  by_cases hlast : last = ""
  · rw [hlast]
    rfl
  · rw [if_neg hlast, if_neg (by simpa using hlast), List.map_singleton, String.ofList_toList]

/-! ## (3) The lines of the bytes -/

/-- Bytes that are no line feed go on with the line. -/
theorem splitLinesFrom_append {bytes : List UInt8} (h : lineFeed ∉ bytes)
    (before rest : List UInt8) :
    splitLinesFrom before (bytes ++ rest) = splitLinesFrom (bytes.reverse ++ before) rest := by
  induction bytes generalizing before with
  | nil => rfl
  | cons b bytes ih =>
    rw [List.mem_cons, not_or] at h
    rw [List.cons_append, splitLinesFrom, if_neg (Ne.symm h.1), ih h.2, List.reverse_cons,
      List.append_assoc]
    rfl

/-- The end of a line, as bytes and as characters. -/
theorem closeLine_reverse_encode (line : List Char) :
    closeLine (encode line).reverse = encode (withoutReturn line) := by
  rcases List.eq_nil_or_concat line with rfl | ⟨cs, c, rfl⟩
  · rfl
  rw [List.concat_eq_append, encode_append, encode_cons, encode_nil, List.append_nil,
    List.reverse_append]
  by_cases hc : c = '\r'
  · rw [hc, withoutReturn_append_return]
    exact List.reverse_reverse (encode cs)
  · -- The last byte is one of the last character's, and so no carriage return.
    have hlast : carriageReturn ∉ (String.utf8EncodeChar c).reverse := fun h =>
      carriageReturn_notMem hc (List.mem_reverse.mp h)
    obtain ⟨b, bs, hb⟩ := List.exists_cons_of_ne_nil
      (List.reverse_ne_nil_iff.mpr (String.utf8EncodeChar_ne_nil (c := c)))
    have hbne : b ≠ carriageReturn := fun heq =>
      hlast (by rw [hb, heq]; exact List.mem_cons_self ..)
    have hreturn : (cs ++ [c]).getLast? ≠ some '\r' := by
      rw [List.getLast?_concat]
      exact fun h => hc (Option.some.inj h)
    rw [hb, List.cons_append, closeLine, if_neg hbne, ← List.cons_append, ← hb,
      ← List.reverse_append, List.reverse_reverse, withoutReturn_of_getLast? hreturn, encode_append,
      encode_cons, encode_nil, List.append_nil]

/-- **Bytes are split as the characters are.** -/
theorem splitLinesFrom_encode (before cs : List Char) :
    splitLinesFrom (encode before.reverse).reverse (encode cs) =
      (closePieces (List.splitOnPPrepend (· == '\n') cs before)).map encode := by
  induction cs generalizing before with
  | nil =>
    have hempty : (encode before.reverse).reverse.isEmpty = before.reverse.isEmpty := by
      rw [List.isEmpty_reverse, isEmpty_encode]
    rw [encode_nil, splitLinesFrom, List.splitOnPPrepend_nil, closePieces_singleton, hempty,
      List.reverse_reverse]
    split <;> rfl
  | cons c cs ih =>
    -- The byte of a line feed is in the encoding of no other character.
    by_cases hc : c = '\n'
    · subst hc
      have hrest := ih []
      rw [List.splitOnPPrepend_nil_right] at hrest
      rw [List.splitOnPPrepend_cons_pos (p := (· == '\n')) rfl,
        closePieces_cons _ (List.splitOnP_ne_nil _ cs), List.map_cons, ← hrest,
        ← closeLine_reverse_encode]
      rfl
    · rw [List.splitOnPPrepend_cons_neg (p := (· == '\n')) (beq_false_of_ne hc), ← ih, encode_cons,
        splitLinesFrom_append (lineFeed_notMem hc), List.reverse_cons, encode_append,
        List.reverse_append, encode_cons, encode_nil, List.append_nil]

/-- **The lines of the bytes are the bytes of the lines.** -/
theorem splitLines_utf8 (text : String) : splitLines (utf8 text) = (linesOf text).map utf8 := by
  have h := splitLinesFrom_encode [] text.toList
  have hutf8 : utf8 ∘ String.ofList = encode := by
    funext cs
    rw [Function.comp_apply, utf8_eq_encode, String.toList_ofList]
  rw [linesOf, List.map_map, hutf8, utf8_eq_encode, splitLines]
  exact h

/-! ## (4) Whole lines -/

/-- A text **is whole** if it ends where a line ends. -/
def IsWhole (text : String) : Prop := text = "" ∨ text.toList.getLast? = some '\n'

/-- What follows a line feed is split on its own. -/
theorem splitLinesFrom_append_lineFeed (before first second : List UInt8) :
    splitLinesFrom before (first ++ lineFeed :: second) =
      splitLinesFrom before (first ++ [lineFeed]) ++ splitLines second := by
  induction first generalizing before with
  | nil => rfl
  | cons b first ih =>
    rw [List.cons_append, List.cons_append, splitLinesFrom, splitLinesFrom]
    split
    · rw [ih, List.cons_append]
    · exact ih (b :: before)

/-- **Whole lines are split off** from whatever follows them. -/
theorem IsWhole.splitLines_append {text : String} (h : IsWhole text) (rest : List UInt8) :
    splitLines (utf8 text ++ rest) = (linesOf text).map utf8 ++ splitLines rest := by
  rw [← splitLines_utf8]
  rcases h with rfl | hlast
  · rfl
  · obtain ⟨cs, hcs⟩ := List.getLast?_eq_some_iff.mp hlast
    have hutf8 : utf8 text = encode cs ++ [lineFeed] := by
      rw [utf8_eq_encode, hcs, encode_append]
      rfl
    rw [hutf8, List.append_assoc]
    exact splitLinesFrom_append_lineFeed [] (encode cs) rest

/-- Texts with the same bytes are the same. -/
theorem utf8_injective : Function.Injective utf8 := fun text text' h =>
  Option.some.inj (by rw [← decodeLine_utf8 text, h, decodeLine_utf8])

/-- **The lines of a text** are those of its whole lines, and then those of the rest. -/
theorem IsWhole.linesOf_append {first : String} (h : IsWhole first) (second : String) :
    linesOf (first ++ second) = linesOf first ++ linesOf second := by
  have hlines := h.splitLines_append (utf8 second)
  rw [← utf8_append, splitLines_utf8, splitLines_utf8, ← List.map_append] at hlines
  exact (List.map_inj_right fun _ _ h => utf8_injective h).mp hlines

/-- A text is whole once a line feed is put behind it. -/
theorem isWhole_append_lineFeed (text : String) : IsWhole (text ++ "\n") := by
  right
  rw [String.toList_append]
  exact List.getLast?_concat

/-- Whole lines may be followed by whole lines. -/
theorem IsWhole.append {first second : String} (h : IsWhole first) (h' : IsWhole second) :
    IsWhole (first ++ second) := by
  rcases h' with rfl | hlast
  · rwa [String.append_empty]
  · right
    rw [String.toList_append, List.getLast?_append, hlast, Option.some_or]

/-- Every text is whole lines, and a rest without line feed. -/
theorem exists_isWhole_append (text : String) :
    ∃ whole last, IsWhole whole ∧ '\n' ∉ last.toList ∧ text = whole ++ last := by
  by_cases h : '\n' ∈ text.toList
  · obtain ⟨last, whole, hcs, hlast⟩ := List.eq_append_cons_of_mem (List.mem_reverse.mpr h)
    refine ⟨String.ofList whole.reverse ++ "\n", String.ofList last.reverse,
      isWhole_append_lineFeed _, by simpa using hlast, ?_⟩
    have htext := congrArg List.reverse hcs
    rw [List.reverse_reverse] at htext
    rw [← String.toList_inj, htext]
    simp
  · exact ⟨"", text, Or.inl rfl, h, String.empty_append.symm⟩

/-! ## (5) Texts and other bytes -/

/-- What ends a line is left out, and nothing else. -/
theorem eq_closeLine_or (bytes : List UInt8) :
    bytes = closeLine bytes.reverse ∨ bytes = closeLine bytes.reverse ++ [carriageReturn] := by
  rcases List.eq_nil_or_concat bytes with rfl | ⟨before, b, rfl⟩
  · exact Or.inl rfl
  rw [List.concat_eq_append, List.reverse_append, List.reverse_singleton, List.singleton_append,
    closeLine]
  by_cases hb : b = carriageReturn
  · rw [if_pos hb, hb, List.reverse_reverse]
    exact Or.inr rfl
  · rw [if_neg hb, List.reverse_cons, List.reverse_reverse]
    exact Or.inl rfl

/-- The bytes of a line up to its line feed are a text if the line is one. -/
theorem exists_utf8_line {bytes : List UInt8} {line : String}
    (h : closeLine bytes.reverse = utf8 line) :
    ∃ text, IsWhole text ∧ utf8 text = bytes ++ [lineFeed] := by
  rcases eq_closeLine_or bytes with hbytes | hbytes
  · exact ⟨line ++ "\n", isWhole_append_lineFeed line, by rw [utf8_append, hbytes, h]; rfl⟩
  · refine ⟨line ++ "\r" ++ "\n", isWhole_append_lineFeed _, ?_⟩
    rw [utf8_append, utf8_append, hbytes, h]
    rfl

/-- **Any bytes are a text**, or begin with whole lines of a text and then a line that is not
UTF-8. -/
theorem exists_utf8_or_invalid (input : List UInt8) :
    (∃ text, input = utf8 text) ∨
      ∃ text rest line lines, IsWhole text ∧ input = utf8 text ++ rest ∧
        splitLines rest = line :: lines ∧ decodeLine line = none := by
  induction h : input.length using Nat.strongRecOn generalizing input with
  | ind n ih =>
    subst h
    by_cases hfeed : lineFeed ∈ input
    · obtain ⟨bytes, rest, rfl, hbytes⟩ := List.eq_append_cons_of_mem hfeed
      have hlines : splitLines (bytes ++ lineFeed :: rest) =
          closeLine bytes.reverse :: splitLines rest := by
        rw [splitLines, splitLinesFrom_append hbytes, List.append_nil]
        rfl
      cases hline : decodeLine (closeLine bytes.reverse) with
      | none =>
        exact Or.inr ⟨"", _, _, _, Or.inl rfl, (List.nil_append _).symm, hlines, hline⟩
      | some line =>
        -- The first line is a text; what follows it is shorter.
        obtain ⟨text, hwhole, htext⟩ := exists_utf8_line (decodeLine_eq_some_iff.mp hline)
        have hsplit : bytes ++ lineFeed :: rest = utf8 text ++ rest := by
          rw [htext, List.append_assoc, List.singleton_append]
        have hless : rest.length < (bytes ++ lineFeed :: rest).length := by
          rw [List.length_append, List.length_cons]
          omega
        rcases ih rest.length hless rest rfl with
          ⟨text', rfl⟩ | ⟨text', rest', line', lines', hwhole', rfl, hrest⟩
        · exact Or.inl ⟨text ++ text', by rw [hsplit, utf8_append]⟩
        · refine Or.inr ⟨text ++ text', rest', line', lines', hwhole.append hwhole', ?_, hrest⟩
          rw [hsplit, utf8_append, List.append_assoc]
    · -- Without a line feed, the input is one line, or empty.
      cases hline : decodeLine input with
      | some text => exact Or.inl ⟨text, decodeLine_eq_some_iff.mp hline⟩
      | none =>
        have hlines : splitLines input = [input] := by
          have hne : input ≠ [] := by
            rintro rfl
            rw [← utf8_empty, decodeLine_utf8] at hline
            cases hline
          have hread := splitLinesFrom_append hfeed [] []
          rw [List.append_nil, List.append_nil] at hread
          rw [splitLines, hread, splitLinesFrom, List.isEmpty_reverse, List.reverse_reverse,
            List.isEmpty_eq_false_iff.mpr hne]
          rfl
        exact Or.inr ⟨"", input, input, [], Or.inl rfl, rfl, hlines, hline⟩

end PubSub
