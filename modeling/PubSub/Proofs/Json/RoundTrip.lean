import PubSub.Proofs.Json.Tokens

/-! # Writing and reading back values

What is written as JSON is read back as it was, and stands on one line.

* **`Json.Within P depth`** — values nested at most so deep, with numerals that satisfy `P`.
* **`Json.separated`** — the common form of arrays and objects: items, commas, a closing character.
* **`Json.readSequence_separated`** — such a sequence is read back if its items are.
* **`Json.read_render`**, **`Json.parse?_render`** — values and whole texts are read back.
* **`Json.visible_of_mem_render`** — no character of a text is a control character. -/

namespace PubSub

namespace Json

/-! ## (1) Bounded values -/

/-- A value is **within bounds** if it nests at most `depth` arrays and objects, and all its
numerals satisfy `P`. -/
inductive Within (P : Numeral → Prop) : Nat → Json → Prop
  | null {depth : Nat} : Within P depth null
  | bool {depth : Nat} (b : Bool) : Within P depth (bool b)
  | number {depth : Nat} {n : Numeral} (h : P n) : Within P depth (number n)
  | string {depth : Nat} (s : String) : Within P depth (string s)
  | array {depth : Nat} {items : List Json} (h : ∀ item ∈ items, Within P depth item) :
    Within P (depth + 1) (array items)
  | object {depth : Nat} {members : List (String × Json)}
    (h : ∀ member ∈ members, Within P depth member.2) : Within P (depth + 1) (object members)

/-! ## (2) Sequences -/

/-- The text of a **sequence**: items with commas between them, and a closing character. -/
def separated {α : Type} (print : α → List Char) (close : Char) : List α → List Char
  | [] => [close]
  | [x] => print x ++ [close]
  | x :: xs => print x ++ ',' :: separated print close xs

section Separated

variable {α : Type} (print : α → List Char) (close : Char)

/-- Without items there is only the closing bracket. -/
@[simp] theorem separated_nil : separated print close [] = [close] := rfl

/-- A single item has no comma. -/
@[simp] theorem separated_singleton (x : α) : separated print close [x] = print x ++ [close] := rfl

/-- A comma stands between two items. -/
@[simp] theorem separated_cons_cons (x y : α) (ys : List α) :
    separated print close (x :: y :: ys) = print x ++ ',' :: separated print close (y :: ys) := rfl

/-- A sequence has at least as many characters as items. -/
theorem length_le_length_separated (xs : List α) :
    xs.length ≤ (separated print close xs).length := by
  induction xs with
  | nil => exact Nat.zero_le _
  | cons x xs ih =>
    cases xs with
    | nil => simp
    | cons y ys =>
      rw [separated_cons_cons, List.length_append, List.length_cons, List.length_cons]
      simp only [List.length_cons] at ih ⊢
      omega

/-- No item is longer than its sequence. -/
theorem length_print_le_of_mem {x : α} {xs : List α} (h : x ∈ xs) :
    (print x).length ≤ (separated print close xs).length := by
  induction xs with
  | nil => cases h
  | cons y ys ih =>
    cases ys with
    | nil =>
      rw [List.mem_singleton.mp h]
      simp
    | cons z zs =>
      rw [separated_cons_cons, List.length_append, List.length_cons]
      rcases List.mem_cons.mp h with rfl | hmem
      · omega
      · have hrest := ih hmem
        omega

/-- The characters of a sequence are those of its items and the separators. -/
theorem mem_separated {c : Char} {xs : List α} (h : c ∈ separated print close xs) :
    c = close ∨ c = ',' ∨ ∃ x ∈ xs, c ∈ print x := by
  induction xs with
  | nil => exact Or.inl (List.mem_singleton.mp h)
  | cons x xs ih =>
    -- Behind the last item stands the closing character, behind any other one a comma.
    cases xs with
    | nil =>
      rw [separated_singleton, List.mem_append, List.mem_singleton] at h
      rcases h with hx | hclose
      · exact Or.inr (Or.inr ⟨x, List.mem_cons_self .., hx⟩)
      · exact Or.inl hclose
    | cons y ys =>
      rw [separated_cons_cons, List.mem_append, List.mem_cons] at h
      rcases h with hx | hcomma | hrest
      · exact Or.inr (Or.inr ⟨x, List.mem_cons_self .., hx⟩)
      · exact Or.inr (Or.inl hcomma)
      · rcases ih hrest with hclose | hcomma | ⟨z, hz, hc⟩
        · exact Or.inl hclose
        · exact Or.inr (Or.inl hcomma)
        · exact Or.inr (Or.inr ⟨z, List.mem_cons_of_mem x hz, hc⟩)

end Separated

/-- The text of a member. -/
def renderMember (member : String × Json) : List Char :=
  renderString member.1 ++ ':' :: render member.2

/-- **Arrays and objects are sequences**, of values and of members. -/
theorem renderItems_eq_separated (items : List Json) :
    renderItems items = separated render ']' items := by
  induction items with
  | nil => rfl
  | cons item items ih =>
    cases items with
    | nil => rfl
    | cons next items => rw [separated_cons_cons, ← ih]; rfl

/-- The members of an object are written as items with commas between them. -/
theorem renderMembers_eq_separated (members : List (String × Json)) :
    renderMembers members = separated renderMember '\x7d' members := by
  induction members with
  | nil => rfl
  | cons member members ih =>
    obtain ⟨name, value⟩ := member
    cases members with
    | nil => simp [renderMembers, renderMember]
    | cons next members =>
      rw [separated_cons_cons, ← ih]
      rfl

/-! ## (3) Reading sequences back -/

/-- The reader of items **reads back** an item, whatever follows that ends it. -/
def ReadsBack {α : Type} (item : ItemReader α) (print : α → List Char) (x : α) : Prop :=
  ∀ rest, EndsNumeral rest → item (print x ++ rest) = some (x, rest)

/-- The text **begins a token**: it does not begin with a blank, and does not close a sequence. -/
def BeginsToken (cs : List Char) : Prop :=
  ∃ c rest, cs = c :: rest ∧ isSpace c = false ∧ c ≠ ']' ∧ c ≠ '\x7d'

/-- A text that does not begin with white space has none to skip. -/
theorem skipSpace_cons {c : Char} (h : isSpace c = false) (cs : List Char) :
    skipSpace (c :: cs) = c :: cs := by
  rw [skipSpace, List.dropWhile_cons_of_neg]
  rw [h]
  exact Bool.false_ne_true

/-- Nor does a text that a token begins. -/
theorem BeginsToken.skipSpace_append {cs : List Char} (h : BeginsToken cs) (rest : List Char) :
    skipSpace (cs ++ rest) = cs ++ rest := by
  obtain ⟨c, cs, rfl, hspace, -⟩ := h
  exact skipSpace_cons hspace (cs ++ rest)

section ReadSequence

variable {α : Type} {item : ItemReader α} {print : α → List Char} {close : Char}
  (hclose : close = ']' ∨ close = '\x7d') {xs : List α}
  (hbegins : ∀ x ∈ xs, BeginsToken (print x)) (hitems : ∀ x ∈ xs, ReadsBack item print x)
include hclose hbegins hitems

/-- **At least one item** is read back. -/
theorem readItems_separated {limit : Nat} (hne : xs ≠ []) (hlimit : xs.length ≤ limit)
    (rest : List Char) :
    readItems item close limit (separated print close xs ++ rest) = some (xs, rest) := by
  induction xs generalizing limit with
  | nil => exact absurd rfl hne
  | cons x xs ih =>
    obtain ⟨hbegin, hbegins⟩ := List.forall_mem_cons.mp hbegins
    obtain ⟨hitem, hitems⟩ := List.forall_mem_cons.mp hitems
    obtain ⟨limit, rfl⟩ : ∃ n, limit = n + 1 := ⟨limit - 1, by simp at hlimit; omega⟩
    have hcloseSpace : isSpace close = false ∧ close ≠ ',' := by
      rcases hclose with rfl | rfl <;> decide
    cases xs with
    | nil =>
      -- A numeral is known to be over only from what follows it.
      have hends : EndsNumeral (close :: rest) := by
        rcases hclose with rfl | rfl <;> exact endsNumeral_cons (by decide) rest
      rw [separated_singleton, List.append_assoc, List.singleton_append, readItems,
        hbegin.skipSpace_append, hitem _ hends]
      simp [skipSpace_cons hcloseSpace.1, hcloseSpace.2]
    | cons y ys =>
      have hends := endsNumeral_cons (c := ',') (by decide)
        (separated print close (y :: ys) ++ rest)
      have hrest := ih hbegins hitems (List.cons_ne_nil y ys) (Nat.le_of_succ_le_succ hlimit)
      rw [separated_cons_cons, List.append_assoc, List.cons_append, readItems,
        hbegin.skipSpace_append, hitem _ hends]
      simp [skipSpace_cons (show isSpace ',' = false by decide), hrest]

/-- **A sequence is read back** if its items are. -/
theorem readSequence_separated {limit : Nat} (hlimit : xs.length ≤ limit) (rest : List Char) :
    readSequence item close limit (separated print close xs ++ rest) = some (xs, rest) := by
  cases xs with
  | nil =>
    have hspace : isSpace close = false := by rcases hclose with rfl | rfl <;> decide
    simp [readSequence, skipSpace_cons hspace]
  | cons x xs =>
    have hread := readItems_separated hclose hbegins hitems (List.cons_ne_nil x xs) hlimit rest
    have hbegin : BeginsToken (separated print close (x :: xs)) := by
      obtain ⟨c, cs, hc, hother⟩ := hbegins x (List.mem_cons_self ..)
      cases xs with
      | nil => exact ⟨c, cs ++ [close], by rw [separated_singleton, hc]; rfl, hother⟩
      | cons y ys =>
        exact ⟨c, cs ++ ',' :: separated print close (y :: ys),
          by rw [separated_cons_cons, hc]; rfl, hother⟩
    -- The first item does not begin like the end of the sequence, so it is tried as an item.
    obtain ⟨c, cs, hc, hspace, hbracket, hbrace⟩ := hbegin
    have hne : c ≠ close := by rcases hclose with rfl | rfl <;> assumption
    rw [hc, List.cons_append] at hread ⊢
    rw [readSequence, skipSpace_cons hspace]
    simp [hne, hread]

end ReadSequence

/-! ## (4) Reading values back -/

/-- A numeral begins with a sign or a digit, and so with no other token. -/
theorem exists_chars_eq_cons (n : Numeral) :
    ∃ c cs, n.chars = c :: cs ∧ isSpace c = false ∧
      ∀ d ∈ ['[', ']', '\x7b', '\x7d', '"', 'n', 't', 'f'], c ≠ d := by
  obtain ⟨d, ds, hds⟩ := List.exists_cons_of_ne_nil (Nat.toDigits_ne_nil (n := n.whole) (b := 10))
  have hdigit : d.isDigit = true := isDigit_of_mem_toDigits d (hds ▸ List.mem_cons_self ..)
  rw [Numeral.chars_eq, hds]
  cases n.negative with
  | true => exact ⟨'-', _, rfl, by decide, by simp⟩
  | false =>
    have hother : ∀ c : Char, c.isDigit = false → d ≠ c := by
      rintro c hc rfl
      rw [hdigit] at hc
      cases hc
    refine ⟨d, _, rfl, ?_, ?_⟩
    · simp [isSpace, hother ' ' rfl, hother '\n' rfl, hother '\t' rfl, hother '\r' rfl]
    · have hnone : ∀ c ∈ ['[', ']', '\x7b', '\x7d', '"', 'n', 't', 'f'], c.isDigit = false := by
        simp
      exact fun c hc => hother c (hnone c hc)

/-- The text of a value begins a token. -/
theorem beginsToken_render (j : Json) : BeginsToken j.render := by
  cases j with
  | null => exact ⟨_, _, rfl, by decide⟩
  | bool b => cases b <;> exact ⟨_, _, rfl, by decide⟩
  | string s => exact ⟨_, _, rfl, by decide⟩
  | array items => exact ⟨_, _, rfl, by decide⟩
  | object members => exact ⟨_, _, rfl, by decide⟩
  | number n =>
    obtain ⟨c, cs, hc, hspace, hother⟩ := exists_chars_eq_cons n
    exact ⟨c, cs, hc, hspace, hother ']' (by decide), hother '\x7d' (by decide)⟩

/-- The text of a member begins a token, too: a name is a string. -/
theorem beginsToken_renderMember (member : String × Json) : BeginsToken (renderMember member) :=
  ⟨_, _, rfl, by decide⟩

/-- **A scalar is read back.** -/
theorem readScalar_render {depth : Nat} {j : Json} (hj : j.isComposite = false)
    (h : Within Numeral.IsReadable depth j) : ReadsBack readScalar render j := by
  intro rest hrest
  cases h with
  | null => rfl
  | bool b => cases b <;> rfl
  | string s =>
    have hread := readString_escape s rest
    simp [render, renderString, readScalar, hread]
  | @number _ n hn =>
    have hread := readNumeral_chars hn hrest
    obtain ⟨c, cs, hc, -, hother⟩ := exists_chars_eq_cons n
    rw [hc, List.cons_append] at hread
    simp only [List.mem_cons, List.not_mem_nil, or_false, forall_eq_or_imp, forall_eq] at hother
    obtain ⟨-, -, -, -, hquote, hn, ht, hf⟩ := hother
    rw [render, hc, List.cons_append]
    simp [readScalar, hread, hquote, hn, ht, hf]
  | array _ => cases hj
  | object _ => cases hj

/-- A value that is no array and no object is read as a scalar. -/
theorem read_eq_readScalar {c : Char} (hbracket : c ≠ '[') (hbrace : c ≠ '\x7b') (limit depth : Nat)
    (cs : List Char) : read limit depth (c :: cs) = readScalar (c :: cs) := by
  cases depth <;> simp [read, hbracket, hbrace]

/-- Whatever has no items or members is read back at any depth. -/
theorem read_render_scalar {depth : Nat} {j : Json} (hj : j.isComposite = false)
    (h : Within Numeral.IsReadable depth j) (limit : Nat) :
    ReadsBack (read limit depth) render j := by
  intro rest hrest
  have hread := readScalar_render hj h rest hrest
  have hhead : ∃ c cs, j.render = c :: cs ∧ c ≠ '[' ∧ c ≠ '\x7b' := by
    cases j with
    | null => exact ⟨_, _, rfl, by decide⟩
    | bool b => cases b <;> exact ⟨_, _, rfl, by decide⟩
    | string s => exact ⟨_, _, rfl, by decide⟩
    | number n =>
      obtain ⟨c, cs, hc, -, hother⟩ := exists_chars_eq_cons n
      exact ⟨c, cs, hc, hother '[' (by decide), hother '\x7b' (by decide)⟩
    | array items => cases hj
    | object members => cases hj
  obtain ⟨c, cs, hc, hbracket, hbrace⟩ := hhead
  rw [hc, List.cons_append] at hread ⊢
  rw [read_eq_readScalar hbracket hbrace, hread]

/-- A member is read back if its value is. -/
theorem readsBack_member {value : ItemReader Json} {member : String × Json}
    (h : ReadsBack value render member.2) : ReadsBack (readMember value) renderMember member := by
  intro rest hrest
  obtain ⟨name, j⟩ := member
  have hname := readString_escape name (':' :: (j.render ++ rest))
  have hvalue := h rest hrest
  have hquote : isSpace '"' = false := by decide
  have hcolon : isSpace ':' = false := by decide
  simp only [readMember, renderMember, renderString, List.cons_append, List.append_assoc,
    List.nil_append, readName, skipSpace_cons hquote, hname, Option.bind_eq_bind, Option.bind_some,
    readColon, skipSpace_cons hcolon, (beginsToken_render j).skipSpace_append]
  rw [hvalue]
  rfl

/-- **A value is read back**, whatever follows that ends it: the induction is over its nesting. -/
theorem read_render {depth : Nat} {j : Json} (h : Within Numeral.IsReadable depth j) {limit : Nat}
    (hlimit : j.render.length ≤ limit) : ReadsBack (read limit depth) render j := by
  induction h with
  | null => exact read_render_scalar rfl .null limit
  | bool b => exact read_render_scalar rfl (.bool b) limit
  | string s => exact read_render_scalar rfl (.string s) limit
  | number hn => exact read_render_scalar rfl (.number hn) limit
  | array _ ih =>
    rename_i depth items _
    intro rest hrest
    rw [render, renderItems_eq_separated, List.length_cons] at hlimit
    -- An item is shorter than the array, so the limit is enough for what is in the item.
    have hitems : ∀ item ∈ items, ReadsBack (read limit depth) render item := fun item hitem =>
      ih item hitem (Nat.le_trans (length_print_le_of_mem render ']' hitem) (by omega))
    have hlength : items.length ≤ limit :=
      Nat.le_trans (length_le_length_separated render ']' items) (Nat.le_of_succ_le hlimit)
    have hread := readSequence_separated (Or.inl rfl) (fun item _ => beginsToken_render item)
      hitems hlength rest
    rw [render, renderItems_eq_separated, List.cons_append, read, hread]
    rfl
  | object _ ih =>
    rename_i depth members _
    intro rest hrest
    rw [render, renderMembers_eq_separated, List.length_cons] at hlimit
    have hvalue : ∀ member ∈ members, member.2.render.length ≤ (renderMember member).length := by
      intro member _
      rw [renderMember, List.length_append, List.length_cons]
      omega
    have hmembers : ∀ member ∈ members,
        ReadsBack (readMember (read limit depth)) renderMember member := by
      intro member hmember
      have hbound := length_print_le_of_mem renderMember '\x7d' hmember
      have hle := hvalue member hmember
      exact readsBack_member (ih member hmember (by omega))
    have hlength : members.length ≤ limit :=
      Nat.le_trans (length_le_length_separated renderMember '\x7d' members)
        (Nat.le_of_succ_le hlimit)
    have hread := readSequence_separated (Or.inr rfl)
      (fun member _ => beginsToken_renderMember member) hmembers hlength rest
    rw [render, renderMembers_eq_separated, List.cons_append, read, hread]
    rfl

/-- **A whole text is read back.** -/
theorem parse?_render {j : Json} (h : Within Numeral.IsReadable maxDepth j) :
    parse? j.render = some j := by
  have hread := read_render h (Nat.le_refl _) [] endsNumeral_nil
  have hskip := (beginsToken_render j).skipSpace_append []
  rw [List.append_nil] at hread hskip
  rw [parse?, hskip, hread]
  rfl

/-! ## (5) One line -/

/-- A string in quotes has no control character. -/
theorem visible_of_mem_renderString {s : String} {c : Char} (hc : c ∈ renderString s) :
    0x20 ≤ c.toNat := by
  rw [renderString, List.mem_append, List.mem_cons, List.mem_singleton] at hc
  rcases hc with (rfl | hescape) | rfl
  · decide
  · rw [escape, List.mem_flatMap] at hescape
    obtain ⟨d, -, hd⟩ := hescape
    exact visible_of_mem_escapeChar hd
  · decide

/-- **The text of a value has no control character**, and so no line break. -/
theorem visible_of_mem_render {depth : Nat} {j : Json} (h : Within Numeral.IsPrintable depth j)
    {c : Char} (hc : c ∈ j.render) : 0x20 ≤ c.toNat := by
  -- Brackets, colons and commas are visible, so the strings and numerals decide.
  induction h with
  | null =>
    have hall : ∀ d ∈ null.render, 0x20 ≤ d.toNat := by simp [render]
    exact hall c hc
  | bool b =>
    have hall : ∀ d ∈ (bool b).render, 0x20 ≤ d.toNat := by cases b <;> simp [render]
    exact hall c hc
  | string s => exact visible_of_mem_renderString hc
  | number hn => exact visible_of_mem_chars hn hc
  | array _ ih =>
    rw [render, renderItems_eq_separated, List.mem_cons] at hc
    rcases hc with rfl | hc
    · decide
    rcases mem_separated render ']' hc with rfl | rfl | ⟨item, hitem, hmem⟩
    · decide
    · decide
    · exact ih item hitem hmem
  | object _ ih =>
    rw [render, renderMembers_eq_separated, List.mem_cons] at hc
    rcases hc with rfl | hc
    · decide
    rcases mem_separated renderMember '\x7d' hc with rfl | rfl | ⟨member, hmember, hmem⟩
    · decide
    · decide
    · rw [renderMember, List.mem_append, List.mem_cons] at hmem
      rcases hmem with hname | rfl | hvalue
      · exact visible_of_mem_renderString hname
      · decide
      · exact ih member hmember hvalue

end Json

end PubSub
