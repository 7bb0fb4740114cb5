import PubSub.Proofs.Protocol.Drafts
import PubSub.Proofs.Protocol.Exchanges
import PubSub.Proofs.Protocol.Replies
import PubSub.Proofs.Protocol.Scanning

/-! # Requests are read from every spelling

A request can be written in many ways: as an object, with the members in any order, nulls for absent
fields or nothing, and further members of any other names; or as an array. All of them are read as
the same request.

* **`Request.values`** — the fields of a request with their values, **`Request.draft`** — the draft
  they fill.
* **`Request.Writes`**, **`Request.Lists`** — the members and the items that write fields.
* **`Request.ofMembers_writes`**, **`Request.ofItems_lists`** — they are read back.
* **`Request.IsSpelledBy`** — the values that spell a request.
* **`Request.isReadFromSpellings`** — every line with such a value is decoded and answered as the
  request. -/

namespace PubSub

/-! ## (1) The values of fields -/

namespace Field

/-- No field has the name of the tag. -/
theorem name_ne_tagName (field : Field) : field.name ≠ Request.tagName := by
  cases field <;> decide

/-- An integer within its bounds is read. -/
theorem readInteger_int {wanted : Wanted} {low high i : Int} (hlow : low ≤ i) (hhigh : i ≤ high)
    (hword : Reply.InWord i) : readInteger wanted low high (.int i) = .ok i := by
  rw [Json.int, readInteger, Numeral.value?_ofInt hword.1 hword.2]
  simp [hlow, hhigh]

/-- So is a natural number. -/
theorem readInteger_nat {wanted : Wanted} {high n : Nat} (hhigh : n ≤ high)
    (hword : n < wordBound) : readInteger wanted 0 high (.nat n) = .ok (n : Int) := by
  rw [Json.nat, ← Numeral.ofInt_natCast]
  exact readInteger_int (Int.natCast_nonneg n) (Int.ofNat_le.mpr hhigh) (Reply.inWord_natCast hword)

/-- The number of a client is read. -/
theorem readClientId_int (c : ClientId) : readClientId (.int c.toInt) = .ok c := by
  have hsigned := Reply.isSigned_toInt c
  have hbounds := hsigned
  simp only [isSigned, Bool.and_eq_true, decide_eq_true_eq] at hbounds
  rw [readClientId, readInteger_int hbounds.1 (by omega) (Reply.inWord_of_isSigned hsigned)]
  simp [Except.map]

/-- The code of a level is read. -/
theorem readCode_nat (code : UInt8) : readCode (.nat code.toNat) = .ok code := by
  have hcode : code.toNat ≤ 255 := Nat.le_of_lt_succ code.toNat_lt
  have hread : readInteger .code 0 (255 : Nat) (.nat code.toNat) = .ok (code.toNat : Int) :=
    readInteger_nat hcode (Nat.lt_of_le_of_lt hcode (by decide))
  rw [readCode, show (255 : Int) = (255 : Nat) from rfl, hread]
  simp [Except.map]

/-- The bound of a page is read. -/
theorem readPosition_nat (n : UInt64) : readPosition (.nat n.toNat) = .ok n := by
  have hword := toNat_lt_wordBound n
  have hread : readInteger .position 0 wordBound.pred (.nat n.toNat) = .ok (n.toNat : Int) :=
    readInteger_nat (Nat.le_pred_of_lt hword) hword
  rw [readPosition, show (wordBound : Int) - 1 = (wordBound.pred : Nat) from rfl, hread]
  simp [Except.map]

/-- Texts are read one by one. -/
theorem readTexts_map (ss : List String) : readTexts (ss.map .string) = .ok ss := by
  induction ss with
  | nil => rfl
  | cons s ss ih => rw [List.map_cons, readTexts, ih]; rfl

end Field

namespace Draft

variable (d : Draft)

/-- The client of a request is read into the draft. -/
theorem read_clientId (client : ClientId) :
    d.read .clientId (.int client.toInt) = .ok { d with clientId := some client } := by
  rw [read, Field.readClientId_int]
  rfl

/-- So are its titles. -/
theorem read_titles (titles : List String) :
    d.read .titles (.array (titles.map .string)) = .ok { d with titles := some titles } := by
  rw [read, Field.readTextList, Field.readTexts_map]
  rfl

/-- So is its level. -/
theorem read_level (code : UInt8) :
    d.read .level (.nat code.toNat) = .ok { d with level := some (some code) } := by
  have hcode := Field.readCode_nat code
  rw [Json.nat] at hcode ⊢
  rw [read, Field.readNullable, hcode]
  · rfl
  · intro h
    cases h

/-- So is the first position of a page. -/
theorem read_start (position : UInt64) :
    d.read .start (.nat position.toNat) = .ok { d with start := some position } := by
  rw [read, Field.readPosition_nat]
  rfl

/-- So is the position behind the last. -/
theorem read_stop (position : UInt64) :
    d.read .stop (.nat position.toNat) = .ok { d with stop := some position } := by
  rw [read, Field.readPosition_nat]
  rfl

end Draft

/-! ## (2) The fields of a request -/

namespace Request

/-- The **fields of a request** with their values, in the order of declaration; an absent field has
none. -/
def values : Request → List (Field × Option Json)
  | subscribe client titles level =>
    [(.clientId, some (.int client.toInt)), (.titles, some (.array (titles.map .string))),
      (.level, level.map fun code => .nat code.toNat)]
  | unsubscribe client titles =>
    [(.clientId, some (.int client.toInt)), (.titles, some (.array (titles.map .string)))]
  | unsubscribeAll client => [(.clientId, some (.int client.toInt))]
  | resolve title checkExists =>
    [(.title, some (.string title)), (.checkExists, checkExists.map .bool)]
  | plainTopics page | wildcardTopics page =>
    [(.start, some (.nat page.start.toNat)), (.stop, some (.nat page.stop.toNat))]
  | topicSubscribers title page =>
    [(.title, some (.string title)), (.start, some (.nat page.start.toNat)),
      (.stop, some (.nat page.stop.toNat))]
  | clientSubscriptions client page =>
    [(.clientId, some (.int client.toInt)), (.start, some (.nat page.start.toNat)),
      (.stop, some (.nat page.stop.toNat))]

/-- The values of a request stand in the order of the fields of its verb. -/
theorem map_fst_values (m : Request) : m.values.map (·.1) = m.verb.fields := by cases m <;> rfl

/-- Only optional fields may be absent. -/
theorem isOptional_of_mem_values (m : Request) :
    ∀ p ∈ m.values, p.2 = none → p.1.isOptional = true := by
  cases m <;> simp [values, Field.isOptional]

/-- The **draft** that has all fields of a request. -/
def draft : Request → Draft
  | subscribe client titles level =>
    { Draft.empty with clientId := some client, titles := some titles, level := some level }
  | unsubscribe client titles =>
    { Draft.empty with clientId := some client, titles := some titles }
  | unsubscribeAll client => { Draft.empty with clientId := some client }
  | resolve title checkExists =>
    { Draft.empty with title := some title, checkExists := some checkExists }
  | plainTopics page | wildcardTopics page =>
    { Draft.empty with start := some page.start, stop := some page.stop }
  | topicSubscribers title page =>
    { Draft.empty with title := some title, start := some page.start, stop := some page.stop }
  | clientSubscriptions client page =>
    { Draft.empty with clientId := some client, start := some page.start, stop := some page.stop }

/-- **The draft of a request is complete.** -/
theorem complete_draft (m : Request) : m.draft.complete m.verb = .ok m := by cases m <;> rfl

/-- **Every value is read** as the field of the draft, and so is a null in place of an absent
one. -/
theorem read_values (m : Request) :
    ∀ p ∈ m.values, ∀ d : Draft, d.read p.1 (p.2.getD .null) = .ok (d.fill p.1 m.draft) := by
  cases m with
  | subscribe client titles level =>
    simp only [values, List.forall_mem_cons]
    refine ⟨fun d => d.read_clientId client, fun d => d.read_titles titles, ?_,
      List.forall_mem_nil _⟩
    cases level with
    | none => exact fun d => rfl
    | some code => exact fun d => d.read_level code
  | unsubscribe client titles =>
    simp only [values, List.forall_mem_cons]
    exact ⟨fun d => d.read_clientId client, fun d => d.read_titles titles, List.forall_mem_nil _⟩
  | unsubscribeAll client =>
    simp only [values, List.forall_mem_cons]
    exact ⟨fun d => d.read_clientId client, List.forall_mem_nil _⟩
  | resolve title checkExists =>
    simp only [values, List.forall_mem_cons]
    refine ⟨fun d => rfl, ?_, List.forall_mem_nil _⟩
    cases checkExists <;> exact fun d => rfl
  | plainTopics page | wildcardTopics page =>
    simp only [values, List.forall_mem_cons]
    exact ⟨fun d => d.read_start page.start, fun d => d.read_stop page.stop, List.forall_mem_nil _⟩
  | topicSubscribers title page =>
    simp only [values, List.forall_mem_cons]
    exact ⟨fun d => rfl, fun d => d.read_start page.start, fun d => d.read_stop page.stop,
      List.forall_mem_nil _⟩
  | clientSubscriptions client page =>
    simp only [values, List.forall_mem_cons]
    exact ⟨fun d => d.read_clientId client, fun d => d.read_start page.start,
      fun d => d.read_stop page.stop, List.forall_mem_nil _⟩

/-- The members for **all** fields of a request: a null for every absent one. -/
def fullMembers (fields : List (Field × Option Json)) : List (String × Json) :=
  fields.map fun p => (p.1.name, p.2.getD .null)

/-- **The members of a request** with all its fields are read as its draft. -/
theorem readMembers_fullMembers (m : Request) :
    m.verb.readMembers .empty (fullMembers m.values) = .ok m.draft := by
  have hfields := map_fst_values m
  have hknown : ∀ p ∈ m.values, p.1 ∈ m.verb.fields := fun p hp =>
    hfields ▸ List.mem_map_of_mem hp
  have hnodup : (m.values.map (·.1)).Nodup := hfields ▸ m.verb.nodup_fields
  have hnew : ∀ p ∈ m.values, Draft.empty.has p.1 = false := fun p _ => by cases p.1 <;> rfl
  have hread := Verb.readMembers_map hknown hnodup hnew m.read_values
  have hdraft : m.values.foldl (fun d p => d.fill p.1 m.draft) .empty = m.draft := by
    cases m <;> rfl
  rw [fullMembers, hread, hdraft]

/-- The members of nulls. -/
def nulls (fields : List Field) : List (String × Json) :=
  fields.map fun field => (field.name, .null)

/-! ## (3) Objects and arrays that write a request -/

/-- **Members write fields** if there is a member for every field with a value, in the order of the
fields; for an absent field there is a null, or nothing. -/
inductive Writes : List (Field × Option Json) → List (String × Json) → Prop
  | nil : Writes [] []
  | value {field : Field} {j : Json} {fields : List (Field × Option Json)}
    {members : List (String × Json)} (h : Writes fields members) :
    Writes ((field, some j) :: fields) ((field.name, j) :: members)
  | null {field : Field} {fields : List (Field × Option Json)} {members : List (String × Json)}
    (h : Writes fields members) : Writes ((field, none) :: fields) ((field.name, .null) :: members)
  | absent {field : Field} {fields : List (Field × Option Json)} {members : List (String × Json)}
    (h : Writes fields members) : Writes ((field, none) :: fields) members

/-- **Items list fields** if they are their values in order, with a null for an absent one; where
only absent ones follow, the items may end. -/
inductive Lists : List (Field × Option Json) → List Json → Prop
  | absent {fields : List (Field × Option Json)} (h : ∀ p ∈ fields, p.2 = none) : Lists fields []
  | value {field : Field} {j : Json} {fields : List (Field × Option Json)} {items : List Json}
    (h : Lists fields items) : Lists ((field, some j) :: fields) (j :: items)
  | null {field : Field} {fields : List (Field × Option Json)} {items : List Json}
    (h : Lists fields items) : Lists ((field, none) :: fields) (.null :: items)

/-- Nulls for the absent fields that were left out **make the members full**. -/
theorem Writes.exists_perm {fields : List (Field × Option Json)} {members : List (String × Json)}
    (h : Writes fields members) :
    ∃ left : List Field, (∀ field ∈ left, (field, none) ∈ fields) ∧
      (fullMembers fields).Perm (members ++ nulls left) := by
  induction h with
  | nil => exact ⟨[], List.forall_mem_nil _, .nil⟩
  | value _ ih =>
    obtain ⟨left, hleft, hperm⟩ := ih
    exact ⟨left, fun field hfield => List.mem_cons_of_mem _ (hleft field hfield), hperm.cons _⟩
  | null _ ih =>
    obtain ⟨left, hleft, hperm⟩ := ih
    exact ⟨left, fun field hfield => List.mem_cons_of_mem _ (hleft field hfield), hperm.cons _⟩
  | @absent field fields members _ ih =>
    obtain ⟨left, hleft, hperm⟩ := ih
    refine ⟨field :: left, List.forall_mem_cons.mpr ⟨List.mem_cons_self .., fun other hother =>
      List.mem_cons_of_mem _ (hleft other hother)⟩, ?_⟩
    -- The null is among the members that are left to add.
    exact (hperm.cons (field.name, .null)).trans List.perm_middle.symm

/-- So they do after the items, each under the name of its field. -/
theorem Lists.exists_eq {fields : List (Field × Option Json)} {items : List Json}
    (h : Lists fields items) :
    items.length ≤ fields.length ∧ (∀ p ∈ fields.drop items.length, p.2 = none) ∧
      fullMembers fields = ((fields.map (·.1)).map Field.name).zip items ++
        nulls ((fields.drop items.length).map (·.1)) := by
  induction h with
  | @absent fields hnone =>
    refine ⟨Nat.zero_le _, hnone, ?_⟩
    rw [List.zip_nil_right, List.nil_append, List.length_nil, List.drop_zero, fullMembers, nulls,
      List.map_map]
    refine List.map_congr_left fun p hp => ?_
    rw [hnone p hp]
    rfl
  | value _ ih =>
    obtain ⟨hlength, hnone, heq⟩ := ih
    exact ⟨Nat.succ_le_succ hlength, hnone, congrArg (List.cons _) heq⟩
  | null _ ih =>
    obtain ⟨hlength, hnone, heq⟩ := ih
    exact ⟨Nat.succ_le_succ hlength, hnone, congrArg (List.cons _) heq⟩

/-- Members that nulls make full describe the request. -/
theorem ofMembers_of_readMembers_nulls {m : Request} {members : List (String × Json)}
    {left : List Field} (hleft : ∀ field ∈ left, (field, none) ∈ m.values)
    (h : m.verb.readMembers .empty (members ++ nulls left) = .ok m.draft) :
    ∃ d, m.verb.readMembers .empty members = .ok d ∧ d.complete m.verb = .ok m := by
  obtain ⟨d, hd, hnulls⟩ := Verb.readMembers_append_eq_ok_iff.mp h
  have hknown : ∀ field ∈ left, field ∈ m.verb.fields := fun field hfield =>
    m.map_fst_values ▸ List.mem_map_of_mem (hleft field hfield)
  have hoptional : ∀ field ∈ left, field.isOptional = true := fun field hfield =>
    m.isOptional_of_mem_values _ (hleft field hfield) rfl
  refine ⟨d, hd, ?_⟩
  rw [← Verb.complete_of_readMembers_null hknown hoptional hnulls, complete_draft]

/-- **Members that write a request describe it**, in any order and with any further members. -/
theorem ofMembers_writes {m : Request} {members written further : List (String × Json)}
    (hwrites : Writes m.values written)
    (hfurther : ∀ member ∈ further, m.verb.field? member.1 = none)
    (hperm : members.Perm (written ++ further)) : m.verb.ofMembers members = .ok m := by
  obtain ⟨left, hleft, hfull⟩ := hwrites.exists_perm
  obtain ⟨d, hd, hcomplete⟩ := ofMembers_of_readMembers_nulls hleft
    (Verb.readMembers_perm hfull m.readMembers_fullMembers)
  have hmembers : m.verb.readMembers .empty members = .ok d :=
    Verb.readMembers_perm hperm.symm ((Verb.readMembers_append hfurther).trans hd)
  rw [Verb.ofMembers, hmembers]
  exact hcomplete

/-- **Items that list a request describe it.** -/
theorem ofItems_lists {m : Request} {items : List Json} (h : Lists m.values items) :
    m.verb.ofItems items = .ok m := by
  obtain ⟨hlength, hnone, hfull⟩ := h.exists_eq
  -- The items may stop early; the fields behind them are the absent ones.
  have hleft : ∀ field ∈ (m.values.drop items.length).map (·.1), (field, none) ∈ m.values := by
    intro field hfield
    obtain ⟨⟨field', value⟩, hp, rfl⟩ := List.mem_map.mp hfield
    obtain rfl : value = none := hnone _ hp
    exact List.mem_of_mem_drop hp
  rw [map_fst_values] at hfull
  obtain ⟨d, hd, hcomplete⟩ := ofMembers_of_readMembers_nulls hleft
    (hfull ▸ m.readMembers_fullMembers)
  have hoptional : ∀ field ∈ m.verb.fields.drop items.length, field.isOptional = true := by
    rw [← map_fst_values, ← List.map_drop]
    exact fun field hfield => m.isOptional_of_mem_values _ (hleft field hfield) rfl
  have hitems : m.verb.readItems items.length .empty m.verb.fields items = .ok d := by
    rw [Verb.readItems_eq_readMembers (fun _ h => h) m.verb.nodup_fields
      (fun field _ => by cases field <;> rfl) (by rwa [← map_fst_values, List.length_map])
      hoptional, hd]
  rw [Verb.ofItems, hitems]
  exact hcomplete

/-! ## (4) Lines that spell a request -/

/-- A value **spells** a request: an object with the verb under `type` and members that write the
fields, in any order, among further members of other names whose values are accepted; or an array of
the verb and items that list the fields. -/
inductive IsSpelledBy (m : Request) (accepted : Json → Prop) : Json → Prop
  | object {members written further : List (String × Json)} (hwrites : Writes m.values written)
    (hfurther : ∀ member ∈ further,
      member.1 ≠ tagName ∧ member.1 ∉ m.verb.fields.map Field.name ∧ accepted member.2)
    (hperm : members.Perm ((tagName, .string m.verb.tag) :: (written ++ further))) :
    IsSpelledBy m accepted (.object members)
  | array {items : List Json} (h : Lists m.values items) :
    IsSpelledBy m accepted (.array (.string m.verb.tag :: items))

/-- Every written member is that of a field; a null is written for an optional field that is left
out. -/
theorem Writes.exists_field {fields : List (Field × Option Json)} {members : List (String × Json)}
    (h : Writes fields members) {member : String × Json} (hmember : member ∈ members) :
    ∃ p ∈ fields, member = (p.1.name, p.2.getD .null) := by
  obtain ⟨left, -, hperm⟩ := h.exists_perm
  obtain ⟨p, hp, rfl⟩ := List.mem_map.mp (hperm.mem_iff.mpr (List.mem_append_left _ hmember))
  exact ⟨p, hp, rfl⟩

/-- **A line that spells a request is decoded as it.** -/
theorem decode_of_isSpelledBy {m : Request} {accepted : Json → Prop} {line : String} {j : Json}
    (hparse : Json.parse? line.toList = some j) (h : m.IsSpelledBy accepted j) :
    decode line = .ok m := by
  cases h with
  | @object members written further hwrites hfurther hperm =>
    -- The verb is somewhere among the members; all others have other names.
    obtain ⟨before, after, rfl⟩ := List.append_of_mem
      (hperm.mem_iff.mpr (List.mem_cons_self .. : (tagName, Json.string m.verb.tag) ∈ _))
    have hothers : (before ++ after).Perm (written ++ further) :=
      (List.perm_middle.symm.trans hperm).cons_inv
    have hne : ∀ member ∈ before ++ after, member.1 ≠ tagName := by
      intro member hmember
      rcases List.mem_append.mp (hothers.mem_iff.mp hmember) with hwritten | hmore
      · obtain ⟨p, -, rfl⟩ := hwrites.exists_field hwritten
        exact p.1.name_ne_tagName
      · exact (hfurther member hmore).1
    have hunknown : ∀ member ∈ further, m.verb.field? member.1 = none := fun member hmember =>
      Verb.field?_eq_none (hfurther member hmember).2.1
    obtain ⟨hbefore, hafter⟩ := List.forall_mem_append.mp hne
    rw [decode_of_parse?_object hparse hbefore hafter, ofMembers_writes hwrites hunknown hothers]
    rfl
  | array hlists =>
    rw [decode_of_parse?_array hparse, ofItems_lists hlists]
    rfl

/-- The values of fields are within bounds. -/
theorem within_values (m : Request) :
    ∀ p ∈ m.values, Json.Within Numeral.IsReadable innerDepth (p.2.getD .null) := by
  have hclient (c : ClientId) : Json.Within Numeral.IsReadable innerDepth (.int c.toInt) :=
    .number (Reply.isReadable_of_inWord (Reply.inWord_of_isSigned (Reply.isSigned_toInt c)))
  have hnat {n : Nat} (h : n < wordBound) : Json.Within Numeral.IsReadable innerDepth (.nat n) :=
    Reply.within_nat (Reply.isReadable_of_inWord (Reply.inWord_natCast h))
  have htitles (titles : List String) :
      Json.Within Numeral.IsReadable innerDepth (.array (titles.map .string)) :=
    Reply.within_map fun title _ => .string title
  have hpage (page : Page) : ∀ p ∈ (plainTopics page).values,
      Json.Within Numeral.IsReadable innerDepth (p.2.getD .null) := by
    simp only [values, List.forall_mem_cons]
    exact ⟨hnat (toNat_lt_wordBound _), hnat (toNat_lt_wordBound _), List.forall_mem_nil _⟩
  cases m with
  | subscribe client titles level =>
    simp only [values, List.forall_mem_cons]
    refine ⟨hclient client, htitles titles, ?_, List.forall_mem_nil _⟩
    cases level with
    | none => exact .null
    | some code => exact hnat (Nat.lt_trans code.toNat_lt (by decide))
  | unsubscribe client titles =>
    simp only [values, List.forall_mem_cons]
    exact ⟨hclient client, htitles titles, List.forall_mem_nil _⟩
  | unsubscribeAll client =>
    simp only [values, List.forall_mem_cons]
    exact ⟨hclient client, List.forall_mem_nil _⟩
  | resolve title checkExists =>
    simp only [values, List.forall_mem_cons]
    refine ⟨.string title, ?_, List.forall_mem_nil _⟩
    cases checkExists with
    | none => exact .null
    | some b => exact .bool b
  | plainTopics page | wildcardTopics page => exact hpage page
  | topicSubscribers title page => exact List.forall_mem_cons.mpr ⟨.string title, hpage page⟩
  | clientSubscriptions client page => exact List.forall_mem_cons.mpr ⟨hclient client, hpage page⟩

/-- Every listed item is the value of a field, with a null in the place of one that is left out. -/
theorem Lists.exists_value {fields : List (Field × Option Json)} {items : List Json}
    (h : Lists fields items) : ∀ item ∈ items, ∃ p ∈ fields, item = p.2.getD .null := by
  induction h with
  | absent _ => exact List.forall_mem_nil _
  | value _ ih | null _ ih =>
    refine List.forall_mem_cons.mpr ⟨⟨_, List.mem_cons_self .., rfl⟩, fun item hitem => ?_⟩
    obtain ⟨p, hp, heq⟩ := ih item hitem
    exact ⟨p, List.mem_cons_of_mem _ hp, heq⟩

/-- **A spelling has a line**: its compact text. -/
theorem parse?_of_isSpelledBy {m : Request} {j : Json}
    (h : m.IsSpelledBy (Json.Within Numeral.IsReadable innerDepth) j) :
    Json.parse? j.text.toList = some j := by
  rw [Json.text, String.toList_ofList]
  refine Json.parse?_render ?_
  cases h with
  | @object members written further hwrites hfurther hperm =>
    refine .object fun member hmember => ?_
    rcases List.mem_cons.mp (hperm.mem_iff.mp hmember) with rfl | hother
    · exact .string m.verb.tag
    rcases List.mem_append.mp hother with hwritten | hmore
    · obtain ⟨p, hp, rfl⟩ := hwrites.exists_field hwritten
      exact m.within_values p hp
    · exact (hfurther member hmore).2.2
  | array hlists =>
    refine .array (List.forall_mem_cons.mpr ⟨.string m.verb.tag, fun item hitem => ?_⟩)
    obtain ⟨p, hp, rfl⟩ := hlists.exists_value item hitem
    exact m.within_values p hp

/-- How a request **is read from its spellings**. -/
structure IsReadFromSpellings (m : Request) : Prop where
  /-- Every line that spells the request is decoded as the request. -/
  decode {line : String} {j : Json} (hparse : Json.parse? line.toList = some j)
    (hj : m.IsSpelledBy (fun _ => True) j) : Request.decode line = .ok m
  /-- It is answered as the request, and has the effect of the request. -/
  respond {line : String} {j : Json} (hparse : Json.parse? line.toList = some j)
    (hj : m.IsSpelledBy (fun _ => True) j) (settings : RegistrySettings) (now : Time)
    (r : Registry) : r.respondLine settings now line = r.respond settings now m
  /-- Every spelling has a line, if further members nest and count within the limits of a text. -/
  text {j : Json} (hj : m.IsSpelledBy (Json.Within Numeral.IsReadable innerDepth) j) :
    Json.parse? j.text.toList = some j

/-- **Every request is read from every spelling of it**, with its members in any order and whatever
else the object holds, or from the array of its fields. -/
theorem isReadFromSpellings (m : Request) : m.IsReadFromSpellings where
  decode := decode_of_isSpelledBy
  respond hparse hj settings now r :=
    Registry.respondLine_of_decode (decode_of_isSpelledBy hparse hj) settings now r
  text := parse?_of_isSpelledBy

/-- The members of a subscription are read from the last to the first, with a null for the level and
a repeated member of another name. -/
theorem isReadFromSpellings_reverse :
    let request : Request := .subscribe (-9223372036854775808) ["a/#", "\"é"] none
    let further : List (String × Json) := [("x", .null), ("x", .array [.string "type"])]
    let written : List (String × Json) :=
      [("client_id", .int (-9223372036854775808)),
        ("titles", .array [.string "a/#", .string "\"é"]), ("level", .null)]
    let j : Json := .object ((tagName, .string "subscribe") :: (written ++ further)).reverse
    Json.parse? j.text.toList = some j ∧ request.IsSpelledBy (fun _ => True) j ∧
      decode j.text = .ok request := by
  intro request further written j
  have hwrites : Writes request.values written := .value (.value (.null .nil))
  have hnames : ∀ member ∈ further,
      member.1 ≠ tagName ∧ member.1 ∉ request.verb.fields.map Field.name := by
    simp only [further, List.forall_mem_cons]
    exact ⟨by decide, by decide, List.forall_mem_nil _⟩
  have hwithin : ∀ member ∈ further, Json.Within Numeral.IsReadable innerDepth member.2 := by
    simp only [further, List.forall_mem_cons]
    exact ⟨.null, .array (List.forall_mem_singleton.mpr (.string _)), List.forall_mem_nil _⟩
  have hread := request.isReadFromSpellings
  have hparse := hread.text (.object hwrites
    (fun member h => ⟨(hnames member h).1, (hnames member h).2, hwithin member h⟩)
    (List.reverse_perm _))
  have hspelled : request.IsSpelledBy (fun _ => True) j := .object hwrites
    (fun member h => ⟨(hnames member h).1, (hnames member h).2, trivial⟩) (List.reverse_perm _)
  exact ⟨hparse, hspelled, hread.decode hparse hspelled⟩

end Request

end PubSub
