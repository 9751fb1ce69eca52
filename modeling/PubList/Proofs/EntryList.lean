import Mathlib.Data.List.Forall2
import Mathlib.Data.List.Nodup
import PubList.Entry.Reader

/-!
# What a list of entries is read as

Reading a list of entries succeeds only with entries that have different keys, none of them empty, and
no field beside them with the name of the key. A JSON list of flat maps is read exactly: entry by
entry, member by member (`Entry.IsOf`), or it is refused with the first key that comes again
(`readEntries_records`).

The conversion of one map is `ofMembers_of_isRecord`, the look for keys that come again is
`checkKeys_cases`.
-/

namespace PubList

/-! ## Flat maps -/

/-- The text of a plain value: a text as it is, a number as it is printed, or the word for yes or
no. -/
inductive Data.Shows : Data → Text → Prop where
  | text (t : Text) : Shows (.text t) t
  | number (n : Number.Scalar) : Shows (.number n) n.toText
  | yes : Shows (.bool true) "true".toList
  | no : Shows (.bool false) "false".toList

theorem Data.plainText?_eq_some_iff {value : Data} {t : Text} :
    value.plainText? = some t ↔ value.Shows t := by
  constructor
  · intro h
    cases value with
    | text _ => cases h; exact .text _
    | number _ => cases h; exact .number _
    | bool b => cases b <;> cases h <;> constructor
    | null | list | map => cases h
  · rintro (_ | _) <;> rfl

/-- A plain value has one text. -/
theorem Data.Shows.unique {value : Data} {s t : Text} (hs : value.Shows s) (ht : value.Shows t) :
    s = t :=
  Option.some.inj ((plainText?_eq_some_iff.2 hs).symm.trans (plainText?_eq_some_iff.2 ht))

def Data.isNull : Data → Bool
  | null => true
  | _ => false

theorem Data.Shows.isNull_eq_false {value : Data} {t : Text} (h : value.Shows t) :
    value.isNull = false := by
  cases h <;> rfl

namespace Entry

/-- A flat map with the key `key`: its members have different names, each value is plain or null, and
the member with the name of the key shows `key`, which is not empty. -/
structure IsRecord (members : List (Text × Data)) (key : Text) : Prop where
  nodup : (members.map Prod.fst).Nodup
  plain : ∀ m ∈ members, m.2 = .null ∨ ∃ t, m.2.Shows t
  shows_key : ∃ value, (keyName, value) ∈ members ∧ value.Shows key
  key_ne_nil : key ≠ []

/-- The field has the name of the member and the text of its value. -/
def ShowsMember (m : Text × Data) (field : Text × Text) : Prop := field.1 = m.1 ∧ m.2.Shows field.2

/-- The entry of a flat map: its key is the text of the member with the name of the key, and its
fields are the other members that are not null, in their order. -/
structure IsOf (members : List (Text × Data)) (e : Entry) : Prop where
  shows_key : ∃ value, (keyName, value) ∈ members ∧ value.Shows e.key
  fields : List.Forall₂ ShowsMember
    (members.filter fun m => m.1 ≠ keyName && !m.2.isNull) e.fields

theorem rightUnique_showsMember : Relator.RightUnique ShowsMember :=
  fun _ _ _ h h' => Prod.ext (h.1.trans h'.1.symm) (h.2.unique h'.2)

/-- A map with members of different names has one entry. -/
theorem IsOf.unique {members : List (Text × Data)} (hnodup : (members.map Prod.fst).Nodup)
    {e e' : Entry} (h : IsOf members e) (h' : IsOf members e') : e = e' := by
  obtain ⟨key, fields⟩ := e
  obtain ⟨key', fields'⟩ := e'
  obtain ⟨⟨value, hmem, hvalue⟩, hfields⟩ := h
  obtain ⟨⟨value', hmem', hvalue'⟩, hfields'⟩ := h'
  have heq : (keyName, value) = (keyName, value') :=
    List.inj_on_of_nodup_map hnodup hmem hmem' rfl
  cases heq
  have hkeys : key = key' := hvalue.unique hvalue'
  have hsame : fields = fields' := rightUnique_showsMember.forall₂ hfields hfields'
  rw [hkeys, hsame]

/-! ## One map -/

theorem putMember_of_not_mem {α : Type} {name : Text} (value : α) {members : List (Text × α)}
    (h : name ∉ members.map Prod.fst) :
    Data.putMember name value members = members ++ [(name, value)] := by
  induction members with
  | nil => rfl
  | cons m members ih =>
    rw [List.map_cons, List.mem_cons, not_or] at h
    rw [Data.putMember, if_neg (Ne.symm h.1), ih h.2, List.cons_append]

/-- Members with different names are all kept, in their order. -/
theorem distinctMembers_eq_self {α : Type} {members : List (Text × α)}
    (h : (members.map Prod.fst).Nodup) : Data.distinctMembers members = members := by
  suffices haux : ∀ done : List (Text × α), ((done ++ members).map Prod.fst).Nodup →
      members.foldl (fun done m => Data.putMember m.1 m.2 done) done = done ++ members by
    exact haux [] h
  clear h
  induction members with
  | nil => simp
  | cons m members ih =>
    obtain ⟨name, value⟩ := m
    intro done hdone
    have hname : name ∉ done.map Prod.fst := by
      rw [List.map_append, List.nodup_append] at hdone
      exact fun hmem => hdone.2.2 name hmem name (by simp) rfl
    have hput : Data.putMember name value done = done ++ [(name, value)] :=
      putMember_of_not_mem value hname
    have hrest := ih (done ++ [(name, value)]) (by simpa using hdone)
    show members.foldl _ (Data.putMember name value done) = _
    rw [hput, hrest]
    simp

theorem plainMembers_cons_of_shows {name t : Text} {value : Data} (h : value.Shows t)
    (members : List (Text × Data)) :
    plainMembers ((name, value) :: members) = (plainMembers members).map ((name, t) :: ·) := by
  cases h <;> rfl

/-- The members that are not null become texts, if their values are plain. -/
theorem plainMembers_eq_ok_iff {members : List (Text × Data)} {plain : List (Text × Text)} :
    plainMembers members = .ok plain ↔
      List.Forall₂ ShowsMember (members.filter fun m => !m.2.isNull) plain := by
  induction members generalizing plain with
  | nil => cases plain <;> simp [plainMembers]
  | cons m members ih =>
    obtain ⟨name, value⟩ := m
    by_cases hplain : ∃ t, value.Shows t
    · obtain ⟨t, ht⟩ := hplain
      rw [plainMembers_cons_of_shows ht, List.filter_cons_of_pos (by simp [ht.isNull_eq_false]),
        List.forall₂_cons_left_iff]
      constructor
      · intro h
        cases hrest : plainMembers members with
        | error cause => rw [hrest] at h; cases h
        | ok rest =>
          rw [hrest] at h
          cases h
          exact ⟨(name, t), rest, ⟨rfl, ht⟩, ih.1 hrest, rfl⟩
      · rintro ⟨⟨name', t'⟩, rest, ⟨rfl, ht'⟩, hrest, rfl⟩
        cases ht.unique ht'
        rw [ih.2 hrest]
        rfl
    · cases value with
      | null => exact ih
      | text t => exact absurd ⟨_, .text t⟩ hplain
      | number n => exact absurd ⟨_, .number n⟩ hplain
      | bool b => cases b <;> exact absurd ⟨_, by constructor⟩ hplain
      | list | map =>
        rw [List.filter_cons_of_pos (by rfl), List.forall₂_cons_left_iff]
        constructor
        · intro h
          cases h
        · rintro ⟨field, rest, ⟨-, hshows⟩, -⟩
          exact absurd ⟨_, hshows⟩ hplain

/-- Two lists of pairs with related names: what the first one has for a name shows in the second. -/
theorem lookup_of_forall₂ {members : List (Text × Data)} {plain : List (Text × Text)}
    (h : List.Forall₂ ShowsMember members plain) (hnodup : (members.map Prod.fst).Nodup)
    {name t : Text} {value : Data} (hmem : (name, value) ∈ members) (ht : value.Shows t) :
    plain.lookup name = some t := by
  induction h with
  | nil => cases hmem
  | @cons m field members plain hshows hrest ih =>
    obtain ⟨fieldName, s⟩ := field
    obtain ⟨rfl, hs⟩ := hshows
    rw [List.map_cons, List.nodup_cons] at hnodup
    rcases List.mem_cons.1 hmem with heq | hmem
    · cases heq
      rw [List.lookup_cons_self]
      exact congrArg some (hs.unique ht)
    · have hne : name ≠ m.1 := fun hname =>
        hnodup.1 (hname ▸ List.mem_map.2 ⟨(name, value), hmem, rfl⟩)
      rw [List.lookup_cons, beq_eq_false_iff_ne.2 hne]
      exact ih hnodup.2 hmem

/-- Values that are plain or null have texts, those that are null left out. -/
theorem exists_plain {members : List (Text × Data)}
    (h : ∀ m ∈ members, m.2 = .null ∨ ∃ t, m.2.Shows t) :
    ∃ plain, List.Forall₂ ShowsMember (members.filter fun m => !m.2.isNull) plain := by
  induction members with
  | nil => exact ⟨[], .nil⟩
  | cons m members ih =>
    rw [List.forall_mem_cons] at h
    obtain ⟨plain, hplain⟩ := ih h.2
    rcases h.1 with hnull | ⟨t, ht⟩
    · exact ⟨plain, by rwa [List.filter_cons_of_neg (by simp [hnull, Data.isNull])]⟩
    · refine ⟨(m.1, t) :: plain, ?_⟩
      rw [List.filter_cons_of_pos (by simp [ht.isNull_eq_false])]
      exact .cons ⟨rfl, ht⟩ hplain

/-- A flat map with a key that is not empty is an entry. -/
theorem ofMembers_of_isRecord {members : List (Text × Data)} {key : Text}
    (h : IsRecord members key) : ∃ e, ofMembers members = .ok e ∧ e.key = key ∧ IsOf members e := by
  obtain ⟨plain, hplain⟩ := exists_plain h.plain
  obtain ⟨value, hmem, hvalue⟩ := h.shows_key
  have hread : plainMembers (Data.distinctMembers members) = .ok plain := by
    rw [distinctMembers_eq_self h.nodup]
    exact plainMembers_eq_ok_iff.2 hplain
  have hlookup : plain.lookup keyName = some key :=
    lookup_of_forall₂ hplain (h.nodup.sublist (List.filter_sublist.map _))
      (List.mem_filter.2 ⟨hmem, by simp [hvalue.isNull_eq_false]⟩) hvalue
  obtain ⟨c, rest, hkey⟩ := List.exists_cons_of_ne_nil h.key_ne_nil
  have hfields : List.Forall₂ ShowsMember (members.filter fun m => m.1 ≠ keyName && !m.2.isNull)
      (plain.filter fun m => m.1 ≠ keyName) := by
    have hfilter : (members.filter fun m => m.1 ≠ keyName && !m.2.isNull) =
        (members.filter fun m => !m.2.isNull).filter fun m => m.1 ≠ keyName := by
      rw [List.filter_filter]
    rw [hfilter]
    refine List.rel_filter (fun m field hshows => ?_) hplain
    simp [hshows.1]
  refine ⟨⟨key, plain.filter fun m => m.1 ≠ keyName⟩, ?_, rfl, ⟨value, hmem, hvalue⟩, hfields⟩
  rw [hkey] at hlookup ⊢
  simp only [ofMembers, hread, bind, Except.bind, hlookup]

/-- An entry that is read has a key that is not empty, and no field with the name of the key. -/
structure IsKeyed (e : Entry) : Prop where
  key_ne_nil : e.key ≠ []
  name_ne : ∀ field ∈ e.fields, field.1 ≠ keyName

theorem isKeyed_of_ofMembers {members : List (Text × Data)} {e : Entry}
    (h : ofMembers members = .ok e) : IsKeyed e := by
  unfold ofMembers at h
  simp only [bind, Except.bind] at h
  split at h
  · cases h
  · split at h
    · cases h
      exact ⟨by simp, fun field hfield => by simpa using (List.mem_filter.1 hfield).2⟩
    · cases h

/-! ## Keys that come again -/

/-- Either no key comes again, or the first one that does is named. -/
theorem checkKeys_cases (seen : List Text) (entries : List Entry) :
    ((entries.map Entry.key).Nodup ∧ (∀ e ∈ entries, e.key ∉ seen) ∧ checkKeys seen entries = .ok ()) ∨
      ∃ before key after, entries.map Entry.key = before ++ key :: after ∧
        before.Nodup ∧ (∀ k ∈ before, k ∉ seen) ∧ (key ∈ seen ∨ key ∈ before) ∧
        checkKeys seen entries = .error (.duplicateKey key) := by
  induction entries generalizing seen with
  | nil => exact .inl ⟨.nil, by simp, rfl⟩
  | cons e entries ih =>
    by_cases hseen : e.key ∈ seen
    · right
      exact ⟨[], e.key, entries.map Entry.key, rfl, .nil, by simp, .inl hseen,
        by simp [checkKeys, hseen]⟩
    · have hstep : checkKeys seen (e :: entries) = checkKeys (e.key :: seen) entries := by
        simp [checkKeys, hseen]
      rw [hstep]
      rcases ih (e.key :: seen) with
        ⟨hnodup, hnew, hok⟩ | ⟨before, key, after, hkeys, hnodup, hnew, hkey, herror⟩
      · left
        refine ⟨List.nodup_cons.2 ⟨fun hmem => ?_, hnodup⟩, ?_, hok⟩
        · obtain ⟨e', he', heq⟩ := List.mem_map.1 hmem
          exact hnew e' he' (heq ▸ List.mem_cons_self)
        · rw [List.forall_mem_cons]
          exact ⟨hseen, fun e' he' hmem => hnew e' he' (List.mem_cons_of_mem _ hmem)⟩
      · right
        refine ⟨e.key :: before, key, after, by rw [List.map_cons, hkeys]; rfl,
          List.nodup_cons.2 ⟨fun hmem => hnew _ hmem List.mem_cons_self, hnodup⟩, ?_, ?_, herror⟩
        · rw [List.forall_mem_cons]
          exact ⟨hseen, fun k hk hmem => hnew k hk (List.mem_cons_of_mem _ hmem)⟩
        · rcases hkey with hkey | hkey
          · rcases List.mem_cons.1 hkey with rfl | hkey
            · exact .inr List.mem_cons_self
            · exact .inl hkey
          · exact .inr (List.mem_cons_of_mem _ hkey)

/-! ## Lists of maps -/

/-- A list is converted exactly if each of its items is. -/
theorem mapM_eq_ok_iff {α β ε : Type} {f : α → Except ε β} {xs : List α} {ys : List β} :
    xs.mapM f = .ok ys ↔ List.Forall₂ (fun x y => f x = .ok y) xs ys := by
  induction xs generalizing ys with
  | nil => cases ys <;> simp [pure, Except.pure]
  | cons x xs ih =>
    rw [List.mapM_cons, List.forall₂_cons_left_iff]
    cases hx : f x with
    | error cause => simp [bind, Except.bind]
    | ok y =>
      cases hxs : xs.mapM f with
      | error cause => simp [bind, Except.bind, ← ih, hxs]
      | ok rest => simp [bind, Except.bind, pure, Except.pure, ← ih, hxs, eq_comm]

/-- Each entry of a converted list is what some item was converted to. -/
theorem forall_of_mapM_eq_ok {α ε : Type} {f : α → Except ε Entry} {P : Entry → Prop}
    (hf : ∀ x e, f x = .ok e → P e) {xs : List α} {entries : List Entry}
    (h : xs.mapM f = .ok entries) : ∀ e ∈ entries, P e := by
  have hconverted := mapM_eq_ok_iff.1 h
  clear h
  induction hconverted with
  | nil => simp
  | cons hx _ ih => exact List.forall_mem_cons.2 ⟨hf _ _ hx, ih⟩

theorem isKeyed_of_ofData {value : Data} {e : Entry} (h : ofData value = .ok e) : IsKeyed e := by
  cases value with
  | map members => exact isKeyed_of_ofMembers h
  | _ => cases h

theorem isKeyed_of_ofNode {node : Yaml.Node} {e : Entry} (h : ofNode node = .ok e) :
    IsKeyed e := by
  unfold ofNode at h
  split at h
  · split at h
    · exact isKeyed_of_ofMembers h
    · cases h
  · split at h
    · exact isKeyed_of_ofMembers h
    · cases h

theorem isKeyed_of_listOfData {value : Data} {entries : List Entry}
    (h : listOfData value = .ok entries) : ∀ e ∈ entries, IsKeyed e := by
  cases value with
  | list items => exact forall_of_mapM_eq_ok (fun _ _ => isKeyed_of_ofData) h
  | _ => cases h

theorem isKeyed_of_listOfNode {node : Yaml.Node} {entries : List Entry}
    (h : listOfNode node = .ok entries) : ∀ e ∈ entries, IsKeyed e := by
  unfold listOfNode at h
  split at h
  · exact forall_of_mapM_eq_ok (fun _ _ => isKeyed_of_ofNode) h
  · split at h
    · cases h
      simp
    · cases h

theorem isKeyed_of_listOfDocument {document : Yaml.Document} {entries : List Entry}
    (h : listOfDocument document = .ok entries) : ∀ e ∈ entries, IsKeyed e := by
  unfold listOfDocument at h
  cases hroot : document.root with
  | none =>
    simp only [hroot, bind, Except.bind] at h
    split at h
    · cases h
      simp
    · cases h
  | some node =>
    simp only [hroot, bind, Except.bind] at h
    split at h
    · cases h
    · split at h
      · cases h
        exact isKeyed_of_listOfNode ‹_›
      · cases h

theorem isKeyed_of_listOfJson? {t : Text} {entries : List Entry}
    (h : listOfJson? t = some entries) : ∀ e ∈ entries, IsKeyed e := by
  obtain ⟨value, -, hvalue⟩ := Option.bind_eq_some_iff.1 h
  cases hlist : listOfData value with
  | error cause => rw [hlist] at hvalue; cases hvalue
  | ok entries' =>
    rw [hlist] at hvalue
    cases hvalue
    exact isKeyed_of_listOfData hlist

/-- A list of flat maps with keys that are not empty is a list of entries with these keys. -/
theorem exists_listOfData_of_records {objects : List (List (Text × Data))} {keys : List Text}
    (h : List.Forall₂ IsRecord objects keys) :
    ∃ entries, listOfData (.list (objects.map .map)) = .ok entries ∧
      entries.map Entry.key = keys ∧ List.Forall₂ IsOf objects entries := by
  suffices haux : ∃ entries,
      List.Forall₂ (fun members e => ofMembers members = .ok e) objects entries ∧
      entries.map Entry.key = keys ∧ List.Forall₂ IsOf objects entries by
    obtain ⟨entries, hentries, hrest⟩ := haux
    exact ⟨entries, mapM_eq_ok_iff.2 (List.forall₂_map_left_iff.2 hentries), hrest⟩
  induction h with
  | nil => exact ⟨[], .nil, rfl, .nil⟩
  | cons hrecord _ ih =>
    obtain ⟨e, he, rfl, hof⟩ := ofMembers_of_isRecord hrecord
    obtain ⟨entries, hentries, rfl, hofs⟩ := ih
    exact ⟨e :: entries, .cons he hentries, rfl, .cons hof hofs⟩

end Entry

/-! ## Reading -/

/-- The list that is read, before its keys are checked: a JSON list is not read as YAML. -/
theorem readEntries_eq (t : Text) :
    readEntries t =
      ((Entry.listOfJson? t).elim (Entry.listOfDocument (Yaml.Document.read t)) .ok).bind
      fun entries => (Entry.checkKeys [] entries).map fun _ => entries := by
  unfold readEntries
  cases Entry.listOfJson? t <;> rfl

/-- What is read is a list of entries with keys, none of which comes again. -/
theorem isKeyed_of_readEntries {t : Text} {entries : List Entry}
    (h : readEntries t = .ok entries) :
    (∀ e ∈ entries, e.IsKeyed) ∧ Entry.checkKeys [] entries = .ok () := by
  have hlisted : ∀ {listed : Except EntryError (List Entry)},
      (listed.bind fun entries => (Entry.checkKeys [] entries).map fun _ => entries) = .ok entries →
        listed = .ok entries ∧ Entry.checkKeys [] entries = .ok () := by
    rintro (_ | entries') hread
    · cases hread
    · simp only [Except.bind] at hread
      cases hcheck : Entry.checkKeys [] entries' with
      | error cause => rw [hcheck] at hread; cases hread
      | ok _ =>
        rw [hcheck] at hread
        cases hread
        exact ⟨rfl, hcheck⟩
  obtain ⟨hlist, hcheck⟩ := hlisted ((readEntries_eq t).symm.trans h)
  refine ⟨?_, hcheck⟩
  cases hjson : Entry.listOfJson? t with
  | some _ =>
    rw [hjson] at hlist
    cases hlist
    exact Entry.isKeyed_of_listOfJson? hjson
  | none =>
    rw [hjson] at hlist
    exact Entry.isKeyed_of_listOfDocument hlist

/-- **What a list of entries is read as.** Whatever is read has different keys, none of them empty,
and no field with the name of the key. A JSON list of flat maps is read entry by entry, in the order
of the document, if the texts of their keys are different; if they are not, it is refused with the
first of these texts that comes again. -/
theorem readEntries_records (t : Text) :
    (∀ entries, readEntries t = .ok entries →
      (entries.map Entry.key).Nodup ∧
        ∀ e ∈ entries, e.key ≠ [] ∧ ∀ field ∈ e.fields, field.1 ≠ Entry.keyName) ∧
    ∀ objects keys, Json.read? t = some (.list (objects.map .map)) →
      List.Forall₂ Entry.IsRecord objects keys →
      (keys.Nodup → ∃ entries, readEntries t = .ok entries ∧ entries.map Entry.key = keys ∧
        List.Forall₂ Entry.IsOf objects entries) ∧
      (¬ keys.Nodup → ∃ before key after, keys = before ++ key :: after ∧ before.Nodup ∧
        key ∈ before ∧ readEntries t = .error (.duplicateKey key)) := by
  refine ⟨fun entries h => ?_, fun objects keys hread hrecords => ?_⟩
  · obtain ⟨hkeyed, hcheck⟩ := isKeyed_of_readEntries h
    refine ⟨?_, fun e he => ⟨(hkeyed e he).key_ne_nil, (hkeyed e he).name_ne⟩⟩
    rcases Entry.checkKeys_cases [] entries with ⟨hnodup, -⟩ | ⟨_, _, _, -, -, -, -, herror⟩
    · exact hnodup
    · rw [hcheck] at herror
      cases herror
  · obtain ⟨entries, hlist, rfl, hofs⟩ := Entry.exists_listOfData_of_records hrecords
    have hjson : Entry.listOfJson? t = some entries := by
      rw [Entry.listOfJson?, hread, Option.bind_some, hlist]
      rfl
    have hchecked : readEntries t = (Entry.checkKeys [] entries).map fun _ => entries := by
      rw [readEntries_eq, hjson]
      rfl
    rw [hchecked]
    rcases Entry.checkKeys_cases [] entries with
      ⟨hnodup, -, hok⟩ | ⟨before, key, after, hkeys, hbefore, -, hkey, herror⟩
    · refine ⟨fun _ => ⟨entries, by rw [hok]; rfl, rfl, hofs⟩, fun hrepeated => ?_⟩
      exact absurd hnodup hrepeated
    · replace hkey : key ∈ before := hkey.resolve_left List.not_mem_nil
      refine ⟨fun hnodup => ?_, fun _ => ⟨before, key, after, hkeys, hbefore, hkey, ?_⟩⟩
      · rw [hkeys, List.nodup_append] at hnodup
        exact absurd rfl (hnodup.2.2 key hkey key List.mem_cons_self)
      · rw [herror]
        rfl

/-- A map with members of each kind is read with the text of its key; two maps whose keys have the
same text, one a number and one a text, are refused. -/
theorem readEntries_records_numbered :
    readEntries "[\x7b\"key\": 1, \"title\": \"A\", \"volume\": null, \"open\": true\x7d]".toList =
      .ok [⟨['1'], [("title".toList, ['A']), ("open".toList, "true".toList)]⟩] ∧
    readEntries "[\x7b\"key\": 1\x7d, \x7b\"key\": \"1\"\x7d]".toList =
      .error (.duplicateKey ['1']) := by
  have hnumber : Data.Shows (.number (.integer 1)) ['1'] := .number _
  have htext : Data.Shows (.text ['1']) ['1'] := .text _
  constructor
  · have hrecord : Entry.IsRecord [("key".toList, .number (.integer 1)),
        ("title".toList, .text ['A']), ("volume".toList, .null), ("open".toList, .bool true)]
        ['1'] := by
      refine ⟨by decide, ?_, ⟨_, List.mem_cons_self, hnumber⟩, by decide⟩
      rintro m (_ | ⟨_, _ | ⟨_, _ | ⟨_, _ | ⟨_, ⟨⟩⟩⟩⟩⟩)
      · exact .inr ⟨_, hnumber⟩
      · exact .inr ⟨_, .text _⟩
      · exact .inl rfl
      · exact .inr ⟨_, .yes⟩
    obtain ⟨entries, hread, -, hofs⟩ := ((readEntries_records
      "[\x7b\"key\": 1, \"title\": \"A\", \"volume\": null, \"open\": true\x7d]".toList).2 [_] _
      (by with_unfolding_all rfl) (.cons hrecord .nil)).1 (by decide)
    obtain ⟨e, rest, hof, ⟨⟩, rfl⟩ := List.forall₂_cons_left_iff.1 hofs
    have hentry : e = ⟨['1'], [("title".toList, ['A']), ("open".toList, "true".toList)]⟩ :=
      hof.unique hrecord.nodup ⟨⟨_, List.mem_cons_self, hnumber⟩,
        .cons ⟨rfl, .text _⟩ (.cons ⟨rfl, .yes⟩ .nil)⟩
    rw [hread, hentry]
  · have hrecord : ∀ {value : Data}, value.Shows ['1'] →
        Entry.IsRecord [("key".toList, value)] ['1'] := fun hvalue =>
      ⟨by simp, by simpa using Or.inr ⟨_, hvalue⟩,
        ⟨_, List.mem_cons_self, hvalue⟩, by decide⟩
    obtain ⟨before, key, after, hkeys, -, hmem, hread⟩ := ((readEntries_records
      "[\x7b\"key\": 1\x7d, \x7b\"key\": \"1\"\x7d]".toList).2 [_, _] _ (by with_unfolding_all rfl)
      (.cons (hrecord hnumber) (.cons (hrecord htext) .nil))).2 (by decide)
    have hkey : key ∈ [['1'], ['1']] := by
      rw [hkeys]
      exact List.mem_append_right _ List.mem_cons_self
    have hone : key = ['1'] := by simpa using hkey
    rw [hread, hone]

end PubList
