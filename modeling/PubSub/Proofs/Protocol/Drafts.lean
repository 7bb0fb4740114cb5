import PubSub.Protocol.Decoding

/-! # Members in any order

The members of a request's object may stand in any order, and the array of a request is read as the
object of the same fields.

* **`Draft.fill`** — one field of a draft taken over from another; reading a field is filling it.
* **`Verb.readMembers_perm`** — the order of members does not count.
* **`Verb.readMembers_append`** — members that are no field of the verb do not count.
* **`Verb.complete_of_readMembers_null`** — nulls for optional fields do not count.
* **`Verb.readItems_eq_readMembers`** — items are read as members under the names of the fields. -/

namespace PubSub

/-! ## (1) Fields of drafts -/

namespace Draft

/-- The draft with one field taken over from another draft. -/
def fill (d : Draft) (field : Field) (source : Draft) : Draft :=
  match field with
  | .clientId => { d with clientId := source.clientId }
  | .titles => { d with titles := source.titles }
  | .level => { d with level := source.level }
  | .title => { d with title := source.title }
  | .checkExists => { d with checkExists := source.checkExists }
  | .start => { d with start := source.start }
  | .stop => { d with stop := source.stop }

/-- **To read a field is to fill it** with what the value alone is read as. -/
theorem read_eq_map (d : Draft) (field : Field) (j : Json) :
    d.read field j = (empty.read field j).map (d.fill field) := by
  cases field with
  | clientId => simp only [read]; cases Field.readClientId j <;> rfl
  | titles => simp only [read]; cases Field.readTextList j <;> rfl
  | level => simp only [read]; cases Field.readNullable Field.readCode j <;> rfl
  | title => simp only [read]; cases Field.readText j <;> rfl
  | checkExists => simp only [read]; cases Field.readNullable Field.readBool j <;> rfl
  | start => simp only [read]; cases Field.readPosition j <;> rfl
  | stop => simp only [read]; cases Field.readPosition j <;> rfl

/-- What a mapped result is the image of. -/
theorem exists_of_map_eq_ok {ε α β : Type} {f : α → β} {x : Except ε α} {b : β}
    (h : x.map f = .ok b) : ∃ a, x = .ok a ∧ b = f a := by
  cases x with
  | error e => cases h
  | ok a => exact ⟨a, rfl, (Except.ok.inj h).symm⟩

/-- Reading a field fills it from a draft that has nothing else. -/
theorem exists_fill_of_read {d e : Draft} {field : Field} {j : Json} (h : d.read field j = .ok e) :
    ∃ source, empty.read field j = .ok source ∧ e = d.fill field source :=
  exists_of_map_eq_ok (read_eq_map d field j ▸ h)

/-- A field that has been read is there. -/
theorem has_of_read {d e : Draft} {field : Field} {j : Json} (h : d.read field j = .ok e) :
    e.has field = true := by
  cases field <;> obtain ⟨v, -, rfl⟩ := exists_of_map_eq_ok h <;> rfl

/-- Filling a field leaves the others as they are. -/
theorem has_fill_of_ne {field other : Field} (h : field ≠ other) (d source : Draft) :
    (d.fill field source).has other = d.has other := by
  cases field <;> cases other <;> first | rfl | exact absurd rfl h

/-- **Two different fields may be filled in either order.** -/
theorem fill_comm {field other : Field} (h : field ≠ other) (d source source' : Draft) :
    (d.fill field source).fill other source' = (d.fill other source').fill field source := by
  cases field <;> cases other <;> first | rfl | exact absurd rfl h

/-- **Different fields are read in either order.** -/
theorem read_comm {d d' e : Draft} {field other : Field} {j k : Json} (hne : field ≠ other)
    (h : d.read field j = .ok d') (h' : d'.read other k = .ok e) :
    ∃ d'', d.read other k = .ok d'' ∧ d''.read field j = .ok e := by
  obtain ⟨source, hsource, rfl⟩ := exists_fill_of_read h
  obtain ⟨source', hsource', rfl⟩ := exists_fill_of_read h'
  refine ⟨d.fill other source', ?_, ?_⟩
  · rw [read_eq_map, hsource']
    rfl
  · rw [read_eq_map, hsource, fill_comm hne]
    rfl

end Draft

/-! ## (2) Members -/

namespace Verb

variable (v : Verb) {d e : Draft}

/-- Read **one member** into a draft. -/
def readMember (d : Draft) (member : String × Json) : Except ShapeError Draft :=
  match v.field? member.1 with
  | none => .ok d
  | some field =>
    if d.has field then .error (.duplicateField field.name) else d.read field member.2

/-- Members are read from left to right. -/
theorem readMembers_cons (d : Draft) (member : String × Json) (members : List (String × Json)) :
    v.readMembers d (member :: members) =
      (v.readMember d member).bind fun d => v.readMembers d members := by
  obtain ⟨name, value⟩ := member
  rw [readMembers, readMember]
  cases v.field? name with
  | none => rfl
  | some field =>
    cases hhas : d.has field with
    | true => simp only [hhas]; rfl
    | false => simp only [hhas]; cases d.read field value <;> rfl

variable {v}

/-- Members are read if the first one is, and then the others into the draft that it leaves. -/
theorem readMembers_cons_eq_ok_iff {member : String × Json} {members : List (String × Json)} :
    v.readMembers d (member :: members) = .ok e ↔
      ∃ d', v.readMember d member = .ok d' ∧ v.readMembers d' members = .ok e := by
  rw [readMembers_cons]
  cases v.readMember d member with
  | error fault => exact ⟨fun h => (by cases h), fun ⟨_, h, _⟩ => (by cases h)⟩
  | ok d' => exact ⟨fun h => ⟨d', rfl, h⟩, fun ⟨_, hd, h⟩ => by cases hd; exact h⟩

/-- Members may be read in two parts. -/
theorem readMembers_append_eq_ok_iff {members members' : List (String × Json)} :
    v.readMembers d (members ++ members') = .ok e ↔
      ∃ d', v.readMembers d members = .ok d' ∧ v.readMembers d' members' = .ok e := by
  induction members generalizing d with
  | nil => exact ⟨fun h => ⟨d, rfl, h⟩, fun ⟨_, hd, h⟩ => by cases hd; exact h⟩
  | cons member members ih =>
    rw [List.cons_append, readMembers_cons_eq_ok_iff]
    simp only [ih, readMembers_cons_eq_ok_iff]
    constructor
    · rintro ⟨d₁, h₁, d₂, h₂, h⟩
      exact ⟨d₂, ⟨d₁, h₁, h₂⟩, h⟩
    · rintro ⟨d₂, ⟨d₁, h₁, h₂⟩, h⟩
      exact ⟨d₁, h₁, d₂, h₂, h⟩

/-- A member that is a field of the verb is read if the field is new. -/
theorem readMember_eq_ok_iff {member : String × Json} {field : Field}
    (hfield : v.field? member.1 = some field) :
    v.readMember d member = .ok e ↔ d.has field = false ∧ d.read field member.2 = .ok e := by
  cases hhas : d.has field <;> simp [readMember, hfield, hhas]

/-- Two members are read in either order: if both are fields then they are different ones. -/
theorem readMember_comm {d' : Draft} {member member' : String × Json}
    (h : v.readMember d member = .ok d') (h' : v.readMember d' member' = .ok e) :
    ∃ d'', v.readMember d member' = .ok d'' ∧ v.readMember d'' member = .ok e := by
  cases hfield : v.field? member.1 with
  | none =>
    have hskip (d : Draft) : v.readMember d member = .ok d := by rw [readMember, hfield]
    rw [hskip] at h
    cases h
    exact ⟨e, h', hskip e⟩
  | some field =>
    cases hother : v.field? member'.1 with
    | none =>
      have hskip (d : Draft) : v.readMember d member' = .ok d := by rw [readMember, hother]
      rw [hskip] at h'
      cases h'
      exact ⟨d, hskip d, h⟩
    | some other =>
      obtain ⟨hnew, hread⟩ := (readMember_eq_ok_iff hfield).mp h
      obtain ⟨hnew', hread'⟩ := (readMember_eq_ok_iff hother).mp h'
      -- A field that is there twice would have been refused the second time.
      have hne : field ≠ other := by
        rintro rfl
        rw [Draft.has_of_read hread] at hnew'
        cases hnew'
      obtain ⟨d'', hd'', he⟩ := Draft.read_comm hne hread hread'
      obtain ⟨source, -, rfl⟩ := Draft.exists_fill_of_read hread
      obtain ⟨source', -, rfl⟩ := Draft.exists_fill_of_read hd''
      rw [Draft.has_fill_of_ne hne] at hnew'
      refine ⟨_, (readMember_eq_ok_iff hother).mpr ⟨hnew', hd''⟩, ?_⟩
      exact (readMember_eq_ok_iff hfield).mpr ⟨by rw [Draft.has_fill_of_ne hne.symm, hnew], he⟩

/-- **The order of members does not count.** -/
theorem readMembers_perm {members members' : List (String × Json)} (hperm : members.Perm members')
    (h : v.readMembers d members = .ok e) : v.readMembers d members' = .ok e := by
  induction hperm generalizing d with
  | nil => exact h
  | cons member _ ih =>
    obtain ⟨d', hd', h⟩ := readMembers_cons_eq_ok_iff.mp h
    exact readMembers_cons_eq_ok_iff.mpr ⟨d', hd', ih h⟩
  | swap member member' members =>
    obtain ⟨d', hd', h⟩ := readMembers_cons_eq_ok_iff.mp h
    obtain ⟨d'', hd'', h⟩ := readMembers_cons_eq_ok_iff.mp h
    obtain ⟨d₁, hd₁, hd₂⟩ := readMember_comm hd' hd''
    exact readMembers_cons_eq_ok_iff.mpr
      ⟨d₁, hd₁, readMembers_cons_eq_ok_iff.mpr ⟨d'', hd₂, h⟩⟩
  | trans _ _ ih ih' => exact ih' (ih h)

/-- **Members that are no field of the verb do not count**, how often ever they are there. -/
theorem readMembers_append {members further : List (String × Json)}
    (hfurther : ∀ member ∈ further, v.field? member.1 = none) :
    v.readMembers d (members ++ further) = v.readMembers d members := by
  induction members generalizing d with
  | nil =>
    induction further with
    | nil => rfl
    | cons member further ih =>
      obtain ⟨hmember, hfurther⟩ := List.forall_mem_cons.mp hfurther
      have hskip : v.readMembers d (member :: further) = v.readMembers d further := by
        rw [readMembers, hmember]
      exact hskip.trans (ih hfurther)
  | cons member members ih =>
    rw [List.cons_append, readMembers_cons, readMembers_cons]
    cases v.readMember d member with
    | error fault => rfl
    | ok d' => exact ih

/-! ## (3) Fields under their names -/

/-- A field of the verb is found by its name. -/
theorem field?_name {field : Field} (h : field ∈ v.fields) : v.field? field.name = some field := by
  have hall : ∀ field ∈ v.fields, v.field? field.name = some field := by cases v <;> decide
  exact hall field h

/-- A name that no field of the verb has is not found. -/
theorem field?_eq_none {name : String} (h : name ∉ v.fields.map Field.name) :
    v.field? name = none := by
  refine List.find?_eq_none.mpr fun field hfield hname => h ?_
  exact List.mem_map.mpr ⟨field, hfield, eq_of_beq hname⟩

/-- No verb has a field twice. -/
theorem nodup_fields (v : Verb) : v.fields.Nodup := by cases v <;> decide

/-- Members for **all fields** of a list are read one after the other, if each value is read as the
field of one and the same draft. -/
theorem readMembers_map {α : Type} {source : Draft} {field : α → Field} {value : α → Json}
    {xs : List α} (hknown : ∀ x ∈ xs, field x ∈ v.fields) (hnodup : (xs.map field).Nodup)
    (hnew : ∀ x ∈ xs, d.has (field x) = false)
    (hread : ∀ x ∈ xs, ∀ d : Draft, d.read (field x) (value x) = .ok (d.fill (field x) source)) :
    v.readMembers d (xs.map fun x => ((field x).name, value x)) =
      .ok (xs.foldl (fun d x => d.fill (field x) source) d) := by
  induction xs generalizing d with
  | nil => rfl
  | cons x xs ih =>
    obtain ⟨hfield, hknown⟩ := List.forall_mem_cons.mp hknown
    obtain ⟨hnotMem, hnodup⟩ := List.nodup_cons.mp hnodup
    obtain ⟨hhas, hnew⟩ := List.forall_mem_cons.mp hnew
    obtain ⟨hvalue, hread⟩ := List.forall_mem_cons.mp hread
    have hmember : v.readMember d ((field x).name, value x) = .ok (d.fill (field x) source) :=
      (readMember_eq_ok_iff (field?_name hfield)).mpr ⟨hhas, hvalue d⟩
    -- The fields differ, so those to come are still new to the draft.
    have hstill : ∀ y ∈ xs, (d.fill (field x) source).has (field y) = false := by
      intro y hy
      have hne : field x ≠ field y := fun heq => hnotMem (heq ▸ List.mem_map_of_mem hy)
      rw [Draft.has_fill_of_ne hne, hnew y hy]
    rw [List.map_cons, readMembers_cons, hmember, List.foldl_cons]
    exact ih hknown hnodup hstill hread

/-- A null for an optional field **completes** to the same request as no member for it. -/
theorem complete_of_readMembers_null {fields : List Field}
    (hknown : ∀ field ∈ fields, field ∈ v.fields)
    (hoptional : ∀ field ∈ fields, field.isOptional = true)
    (h : v.readMembers d (fields.map fun field => (field.name, .null)) = .ok e) :
    e.complete v = d.complete v := by
  induction fields generalizing d with
  | nil => rw [Except.ok.inj h]
  | cons field fields ih =>
    obtain ⟨hfield, hknown⟩ := List.forall_mem_cons.mp hknown
    obtain ⟨hopt, hoptional⟩ := List.forall_mem_cons.mp hoptional
    obtain ⟨d', hd', h⟩ := readMembers_cons_eq_ok_iff.mp h
    obtain ⟨hhas, hread⟩ := (readMember_eq_ok_iff (field?_name hfield)).mp hd'
    rw [ih hknown hoptional h]
    -- Only two fields may be left out, and a null leaves them as they are.
    cases field with
    | level =>
      obtain rfl := Except.ok.inj hread
      have hnone : d.level = none := by simpa [Draft.has] using hhas
      cases v <;> simp [Draft.complete, Draft.page, hnone]
    | checkExists =>
      obtain rfl := Except.ok.inj hread
      have hnone : d.checkExists = none := by simpa [Draft.has] using hhas
      cases v <;> simp [Draft.complete, Draft.page, hnone]
    | _ => cases hopt

/-! ## (4) Items -/

/-- **Items are read as members** under the names of the fields, if only optional ones are left
out. -/
theorem readItems_eq_readMembers {total : Nat} {fields : List Field} {items : List Json}
    (hknown : ∀ field ∈ fields, field ∈ v.fields) (hnodup : fields.Nodup)
    (hnew : ∀ field ∈ fields, d.has field = false) (hlength : items.length ≤ fields.length)
    (hoptional : ∀ field ∈ fields.drop items.length, field.isOptional = true) :
    v.readItems total d fields items = v.readMembers d ((fields.map Field.name).zip items) := by
  induction fields generalizing d items with
  | nil =>
    obtain rfl := List.length_eq_zero_iff.mp (Nat.le_zero.mp hlength)
    rfl
  | cons field fields ih =>
    obtain ⟨hfield, hknown⟩ := List.forall_mem_cons.mp hknown
    obtain ⟨hnotMem, hnodup⟩ := List.nodup_cons.mp hnodup
    obtain ⟨hhas, hnew⟩ := List.forall_mem_cons.mp hnew
    cases items with
    | nil =>
      -- The items are over: a field that is left out is optional, and passed over.
      obtain ⟨hopt, hoptional⟩ := List.forall_mem_cons.mp hoptional
      have hrest : v.readItems total d fields [] =
          v.readMembers d ((fields.map Field.name).zip []) :=
        ih hknown hnodup hnew (Nat.zero_le _) hoptional
      rw [List.zip_nil_right] at hrest ⊢
      rw [readItems, hopt, if_pos rfl, hrest]
    | cons item items =>
      rw [List.map_cons, List.zip_cons_cons, readMembers, field?_name hfield, readItems]
      simp only [hhas, Bool.false_eq_true, if_false]
      cases hread : d.read field item with
      | error fault => rfl
      | ok d' =>
        obtain ⟨source, -, rfl⟩ := Draft.exists_fill_of_read hread
        refine ih hknown hnodup (fun other hother => ?_) (Nat.le_of_succ_le_succ hlength) hoptional
        have hne : field ≠ other := fun heq => hnotMem (heq ▸ hother)
        rw [Draft.has_fill_of_ne hne, hnew other hother]

end Verb

end PubSub
