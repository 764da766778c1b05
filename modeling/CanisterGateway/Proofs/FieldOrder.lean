import CanisterGateway.Proofs.HeaderGroups

/-!
# The order of fields in a header map

Fields arrive in any order. A header map gives them back name by name: the names in the order of
their first arrival, and under each name its fields in the order of theirs. This is told here for
lists of named things of any kind, and then shown to be what building a map does.

Grouping neither loses nor adds a field and leaves the fields of one name in their order. It
changes a list exactly if the fields of some name are interrupted by a field of another.

## Main results

* `grouped_perm`, `named_grouped`, `gathered_grouped` — what grouping keeps and what it achieves.
* `grouped_eq_self_iff` — when there is nothing to group.
* `grouped_map` — grouping depends on which names are the same, and on nothing else.
* `HeaderMap.appendGroup_ofFields`, `HeaderMap.exists_of_add_ofFields` — the step: a map of fields
  takes in one more field.
* `HeaderMap.exists_of_addFields`, `HeaderMap.written_of_addFields` — the run: a map that is built
  is the map of its fields.
-/

namespace CanisterGateway.Http

/-! ## Named things -/

section

variable {ν β : Type}

/-! ### Gathered fields -/

/-- Between two fields of a name stand only fields of that name. -/
def Gathered (fields : List (ν × β)) : Prop :=
  ∀ first between last : ν × β, [first, between, last].Sublist fields →
    first.1 = last.1 → between.1 = first.1

theorem Gathered.sublist {fields part : List (ν × β)} (h : Gathered fields)
    (hPart : part.Sublist fields) : Gathered part :=
  fun first between last hSub => h first between last (hSub.trans hPart)

/-- Fields of one name, and after them gathered fields of other names, are gathered. -/
theorem gathered_append {name : ν} {block fields : List (ν × β)}
    (hBlock : ∀ field ∈ block, field.1 = name) (hOthers : ∀ field ∈ fields, field.1 ≠ name)
    (h : Gathered fields) : Gathered (block ++ fields) := by
  intro first between last hSub hSame
  obtain ⟨left, right, hSplit, hLeft, hRight⟩ := List.sublist_append_iff.mp hSub
  -- the cases are the places at which the three fields may be cut
  cases left with
  | nil =>
      rw [List.nil_append] at hSplit
      rw [← hSplit] at hRight
      exact h first between last hRight hSame
  | cons head left =>
      obtain ⟨hHead, hSplit⟩ := List.cons.inj hSplit
      have hFirst : first.1 = name := hBlock first (hLeft.subset (hHead ▸ List.mem_cons_self))
      cases left with
      | nil =>
          have hMem : last ∈ right := by
            rw [← hSplit.trans (List.nil_append right)]
            exact List.mem_cons_of_mem _ List.mem_cons_self
          have hLast : last.1 ≠ name := hOthers last (hRight.subset hMem)
          exact absurd (hSame.symm.trans hFirst) hLast
      | cons next left =>
          obtain ⟨hNext, -⟩ := List.cons.inj hSplit
          have hMem : between ∈ head :: next :: left :=
            hNext ▸ List.mem_cons_of_mem _ List.mem_cons_self
          have hBetween : between.1 = name := hBlock between (hLeft.subset hMem)
          exact hBetween.trans hFirst.symm

/-! ### Definitions -/

variable [DecidableEq ν]

/-- The names of fields, in the order of their first occurrence. -/
def namesOf (fields : List (ν × β)) : List ν :=
  (fields.map Prod.fst).eraseDups

/-- The fields of a name. -/
def named (name : ν) (fields : List (ν × β)) : List (ν × β) :=
  fields.filter fun field => field.1 = name

/-- The fields of all other names. -/
def unnamed (name : ν) (fields : List (ν × β)) : List (ν × β) :=
  fields.filter fun field => field.1 ≠ name

/-- The fields name by name. -/
def grouped (fields : List (ν × β)) : List (ν × β) :=
  (namesOf fields).flatMap fun name => named name fields

/-! ### Names -/

theorem namesOf_cons (field : ν × β) (fields : List (ν × β)) :
    namesOf (field :: fields) = field.1 :: namesOf (unnamed field.1 fields) := by
  have hNames : (fields.map Prod.fst).filter (fun name => !name == field.1) =
      (unnamed field.1 fields).map Prod.fst := by
    simp only [unnamed, List.filter_map, Function.comp_def, ne_eq, decide_not, beq_eq_decide]
  rw [namesOf, List.map_cons, List.eraseDups_cons, hNames, namesOf]

theorem mem_namesOf {name : ν} {fields : List (ν × β)} :
    name ∈ namesOf fields ↔ ∃ field ∈ fields, field.1 = name := by
  rw [namesOf, List.mem_eraseDups, List.mem_map]

theorem length_unnamed_lt (field : ν × β) (fields : List (ν × β)) :
    (unnamed field.1 fields).length < (field :: fields).length :=
  Nat.lt_succ_of_le (List.length_filter_le _ _)

/-- What holds of no fields, and of fields if it holds of those without the first one's name, holds
of all fields. -/
theorem nameInduction {motive : List (ν × β) → Prop} (nil : motive [])
    (cons : ∀ field fields, motive (unnamed field.1 fields) → motive (field :: fields)) :
    ∀ fields, motive fields
  | [] => nil
  | field :: fields => cons field fields (nameInduction nil cons (unnamed field.1 fields))
termination_by fields => fields.length
decreasing_by exact length_unnamed_lt field fields

theorem nodup_namesOf (fields : List (ν × β)) : (namesOf fields).Nodup := by
  induction fields using nameInduction with
  | nil => exact List.nodup_nil
  | cons field fields ih =>
      have hFirst : field.1 ∉ namesOf (unnamed field.1 fields) := by
        intro hMem
        obtain ⟨other, hOther, hName⟩ := mem_namesOf.mp hMem
        have hNe := (List.mem_filter.mp hOther).2
        exact of_decide_eq_true hNe hName
      rw [namesOf_cons]
      exact List.nodup_cons.mpr ⟨hFirst, ih⟩

/-- A field that comes last adds its name, unless the name is there. -/
theorem namesOf_concat (fields : List (ν × β)) (field : ν × β) :
    namesOf (fields ++ [field]) =
      if field.1 ∈ namesOf fields then namesOf fields else namesOf fields ++ [field.1] := by
  have hMem : field.1 ∈ namesOf fields ↔ field.1 ∈ fields.map Prod.fst := List.mem_eraseDups
  rw [namesOf, List.map_append, List.eraseDups_append]
  by_cases hKnown : field.1 ∈ namesOf fields
  · have hNone : ([field].map Prod.fst).removeAll (fields.map Prod.fst) = [] := by
      simp [List.removeAll, hMem.mp hKnown]
    rw [if_pos hKnown, hNone, List.eraseDups_nil, List.append_nil, namesOf]
  · have hOne : ([field].map Prod.fst).removeAll (fields.map Prod.fst) = [field.1] := by
      simp [List.removeAll, mt hMem.mpr hKnown]
    rw [if_neg hKnown, hOne, namesOf]
    rfl

/-! ### The fields of one name -/

theorem named_append (name : ν) (first second : List (ν × β)) :
    named name (first ++ second) = named name first ++ named name second :=
  List.filter_append ..

theorem named_cons_self (field : ν × β) (fields : List (ν × β)) :
    named field.1 (field :: fields) = field :: named field.1 fields := by
  simp [named]

theorem named_cons_of_ne {name : ν} {field : ν × β} (h : field.1 ≠ name)
    (fields : List (ν × β)) : named name (field :: fields) = named name fields := by
  simp [named, h]

theorem named_eq_self {name : ν} {fields : List (ν × β)} (h : ∀ field ∈ fields, field.1 = name) :
    named name fields = fields := by
  rw [named, List.filter_eq_self]
  intro field hField
  exact decide_eq_true (h field hField)

theorem named_eq_nil {name : ν} {fields : List (ν × β)} (h : ∀ field ∈ fields, field.1 ≠ name) :
    named name fields = [] := by
  rw [named, List.filter_eq_nil_iff]
  intro field hField hName
  exact h field hField (of_decide_eq_true hName)

theorem fst_of_mem_named {name : ν} {field : ν × β} {fields : List (ν × β)}
    (h : field ∈ named name fields) : field.1 = name :=
  of_decide_eq_true (List.mem_filter.mp h).2

theorem fst_ne_of_mem_unnamed {name : ν} {field : ν × β} {fields : List (ν × β)}
    (h : field ∈ unnamed name fields) : field.1 ≠ name :=
  of_decide_eq_true (List.mem_filter.mp h).2

theorem named_unnamed_of_ne {name other : ν} (h : name ≠ other) (fields : List (ν × β)) :
    named name (unnamed other fields) = named name fields := by
  rw [named, named, unnamed, List.filter_filter]
  refine List.filter_congr fun field _ => ?_
  by_cases hName : field.1 = name
  · simp [hName, h]
  · simp [hName]

/-! ### Grouping -/

/-- Grouping brings the fields of the first name together, and goes on with the others. -/
theorem grouped_cons (field : ν × β) (fields : List (ν × β)) :
    grouped (field :: fields) =
      (field :: named field.1 fields) ++ grouped (unnamed field.1 fields) := by
  have hRest : ∀ name ∈ namesOf (unnamed field.1 fields),
      named name (field :: fields) = named name (unnamed field.1 fields) := by
    intro name hMem
    obtain ⟨other, hOther, hName⟩ := mem_namesOf.mp hMem
    have hNe : name ≠ field.1 := hName ▸ fst_ne_of_mem_unnamed hOther
    rw [named_cons_of_ne (Ne.symm hNe), named_unnamed_of_ne hNe]
  rw [grouped, namesOf_cons, List.flatMap_cons, named_cons_self, grouped]
  congr 1
  rw [List.flatMap, List.flatMap, List.map_congr_left hRest]

/-- No field is lost or added. -/
theorem grouped_perm (fields : List (ν × β)) : (grouped fields).Perm fields := by
  induction fields using nameInduction with
  | nil => exact List.Perm.refl []
  | cons field fields ih =>
      have hSplit : (named field.1 fields ++ unnamed field.1 fields).Perm fields := by
        have hParts := List.filter_append_perm (fun other => decide (other.1 = field.1)) fields
        simpa only [named, unnamed, ne_eq, decide_not] using hParts
      rw [grouped_cons, List.cons_append]
      exact ((ih.append_left _).trans hSplit).cons field

/-- The fields of one name keep their order. -/
theorem named_grouped (name : ν) (fields : List (ν × β)) :
    named name (grouped fields) = named name fields := by
  induction fields using nameInduction with
  | nil => rfl
  | cons field fields ih =>
      rw [grouped_cons, named_append, ih]
      by_cases hName : field.1 = name
      · subst hName
        have hHere : named field.1 (field :: named field.1 fields) =
            field :: named field.1 fields := by
          rw [named_cons_self, named_eq_self fun other hOther => fst_of_mem_named hOther]
        have hThere : named field.1 (unnamed field.1 fields) = [] :=
          named_eq_nil fun other hOther => fst_ne_of_mem_unnamed hOther
        rw [hHere, hThere, List.append_nil, named_cons_self]
      · have hHere : named name (field :: named field.1 fields) = [] := by
          rw [named_cons_of_ne hName]
          exact named_eq_nil fun other hOther hOtherName =>
            hName ((fst_of_mem_named hOther).symm.trans hOtherName)
        rw [hHere, List.nil_append, named_unnamed_of_ne (Ne.symm hName), named_cons_of_ne hName]

/-! ### Grouped fields are gathered -/

/-- The fields of every name are brought together. -/
theorem gathered_grouped (fields : List (ν × β)) : Gathered (grouped fields) := by
  induction fields using nameInduction with
  | nil =>
      intro first between last hSub
      cases hSub
  | cons field fields ih =>
      have hBlock : ∀ other ∈ field :: named field.1 fields, other.1 = field.1 := by
        intro other hOther
        rcases List.mem_cons.mp hOther with hFirst | hLater
        · rw [hFirst]
        · exact fst_of_mem_named hLater
      have hOthers : ∀ other ∈ grouped (unnamed field.1 fields), other.1 ≠ field.1 := by
        intro other hOther
        exact fst_ne_of_mem_unnamed ((grouped_perm _).mem_iff.mp hOther)
      rw [grouped_cons]
      exact gathered_append hBlock hOthers ih

/-- Fields among which none of a name comes after one of another name are those of the name, and
after them the others. -/
theorem named_append_unnamed {name : ν} {fields : List (ν × β)}
    (h : ∀ before after : ν × β, [before, after].Sublist fields → after.1 = name →
      before.1 = name) :
    named name fields ++ unnamed name fields = fields := by
  induction fields with
  | nil => rfl
  | cons field fields ih =>
      by_cases hName : field.1 = name
      · have hRest := ih fun before after hSub => h before after (hSub.cons field)
        have hUnnamed : unnamed name (field :: fields) = unnamed name fields := by
          simp [unnamed, hName]
        subst hName
        rw [named_cons_self, hUnnamed, List.cons_append, hRest]
      · have hNone : ∀ other ∈ field :: fields, other.1 ≠ name := by
          intro other hOther hOtherName
          rcases List.mem_cons.mp hOther with hFirst | hLater
          · exact hName (hFirst ▸ hOtherName)
          · have hPair : [field, other].Sublist (field :: fields) :=
              (List.singleton_sublist.mpr hLater).cons_cons field
            exact hName (h field other hPair hOtherName)
        have hAll : unnamed name (field :: fields) = field :: fields := by
          rw [unnamed, List.filter_eq_self]
          intro other hOther
          exact decide_eq_true (hNone other hOther)
        rw [named_eq_nil hNone, hAll, List.nil_append]

/-- Grouping leaves fields as they are exactly if those of every name are together. -/
theorem grouped_eq_self_iff {fields : List (ν × β)} :
    grouped fields = fields ↔ Gathered fields := by
  constructor
  · intro hSame
    rw [← hSame]
    exact gathered_grouped fields
  · intro hGathered
    induction fields using nameInduction with
    | nil => rfl
    | cons field fields ih =>
        have hRest := ih (hGathered.sublist (List.filter_sublist.cons field))
        have hFirst : named field.1 fields ++ unnamed field.1 fields = fields := by
          apply named_append_unnamed
          intro before after hSub hAfter
          exact hGathered field before after (hSub.cons_cons field) hAfter.symm
        rw [grouped_cons, hRest, List.cons_append, hFirst]

/-! ### Other names and other values -/

section

variable {ν' β' : Type} [DecidableEq ν'] {rename : ν → ν'}

theorem named_map (hRename : Function.Injective rename) (change : β → β') (name : ν)
    (fields : List (ν × β)) :
    named (rename name) (fields.map (Prod.map rename change)) =
      (named name fields).map (Prod.map rename change) := by
  rw [named, List.filter_map, named]
  refine congrArg _ (List.filter_congr fun field _ => ?_)
  simp [hRename.eq_iff]

theorem unnamed_map (hRename : Function.Injective rename) (change : β → β') (name : ν)
    (fields : List (ν × β)) :
    unnamed (rename name) (fields.map (Prod.map rename change)) =
      (unnamed name fields).map (Prod.map rename change) := by
  rw [unnamed, List.filter_map, unnamed]
  refine congrArg _ (List.filter_congr fun field _ => ?_)
  simp [hRename.eq_iff]

theorem namesOf_map (hRename : Function.Injective rename) (change : β → β')
    (fields : List (ν × β)) :
    namesOf (fields.map (Prod.map rename change)) = (namesOf fields).map rename := by
  induction fields using nameInduction with
  | nil => rfl
  | cons field fields ih =>
      rw [List.map_cons, namesOf_cons, namesOf_cons, List.map_cons, ← ih]
      exact congrArg (fun rest => rename field.1 :: namesOf rest)
        (unnamed_map hRename change field.1 fields)

/-- Names that stay different may be changed before the grouping or after it. -/
theorem grouped_map (hRename : Function.Injective rename) (change : β → β')
    (fields : List (ν × β)) :
    grouped (fields.map (Prod.map rename change)) =
      (grouped fields).map (Prod.map rename change) := by
  rw [grouped, namesOf_map hRename, List.flatMap_map, grouped, List.map_flatMap]
  refine congrArg (namesOf fields).flatMap (funext fun name => ?_)
  exact named_map hRename change name fields

end

end

/-! ## Header maps -/

namespace HeaderMap

/-- A name with its values among the fields. -/
def groupOf (fields : List HeaderField) (name : HeaderName) : HeaderGroup :=
  ⟨name, ((named name fields).map Prod.snd).toArray⟩

/-- The map of fields. -/
def ofFields (fields : List HeaderField) : HeaderMap :=
  ⟨(namesOf fields).map (groupOf fields)⟩

/-- The map of fields is iterated over name by name. -/
theorem toList_ofFields (fields : List HeaderField) :
    (ofFields fields).toList = grouped fields := by
  have hGroup : ∀ name, (groupOf fields name).fields = named name fields := by
    intro name
    have hField : ∀ field ∈ named name fields, (name, field.2) = field := by
      intro field hMem
      rw [← fst_of_mem_named hMem]
    rw [groupOf, HeaderGroup.fields, List.map_map]
    exact (List.map_congr_left hField).trans (List.map_id _)
  rw [ofFields, toList, List.flatMap_map, grouped]
  exact congrArg (namesOf fields).flatMap (funext hGroup)

theorem groupOf_concat_self (fields : List HeaderField) (field : HeaderField) :
    groupOf (fields ++ [field]) field.1 =
      ⟨field.1, (groupOf fields field.1).values.push field.2⟩ := by
  rw [groupOf, named_append, named_cons_self]
  simp [groupOf, named]

theorem groupOf_concat_of_ne (fields : List HeaderField) {field : HeaderField} {name : HeaderName}
    (h : field.1 ≠ name) : groupOf (fields ++ [field]) name = groupOf fields name := by
  have hNone : named name [field] = [] := named_cons_of_ne h []
  rw [groupOf, named_append, hNone, List.append_nil, groupOf]

/-- A value of a known name goes to the group of that name. -/
theorem appendGroup_of_known {fields : List HeaderField} {field : HeaderField}
    {names : List HeaderName} (hNodup : names.Nodup) (hKnown : field.1 ∈ names) :
    appendGroup field.1 field.2 (names.map (groupOf fields)) =
      names.map (groupOf (fields ++ [field])) := by
  induction names with
  | nil => cases hKnown
  | cons name names ih =>
      obtain ⟨hFresh, hRest⟩ := List.nodup_cons.mp hNodup
      have hName : (groupOf fields name).name = name := rfl
      rw [List.map_cons, List.map_cons, appendGroup, hName]
      by_cases hSame : name = field.1
      · subst hSame
        have hOthers : ∀ other ∈ names,
            groupOf fields other = groupOf (fields ++ [field]) other := by
          intro other hOther
          have hNe : field.1 ≠ other := fun hEq => hFresh (hEq ▸ hOther)
          exact (groupOf_concat_of_ne fields hNe).symm
        rw [if_pos rfl, groupOf_concat_self, List.map_congr_left hOthers]
      · have hLater : field.1 ∈ names := (List.mem_cons.mp hKnown).resolve_left (Ne.symm hSame)
        rw [if_neg hSame, groupOf_concat_of_ne fields (Ne.symm hSame), ih hRest hLater]

/-- **The step.** A map of fields that takes in one more is the map of all of them. -/
theorem appendGroup_ofFields (fields : List HeaderField) (field : HeaderField) :
    appendGroup field.1 field.2 (ofFields fields).groups =
      (ofFields (fields ++ [field])).groups := by
  rw [ofFields, ofFields, namesOf_concat]
  by_cases hKnown : field.1 ∈ namesOf fields
  · rw [if_pos hKnown]
    exact appendGroup_of_known (nodup_namesOf fields) hKnown
  · have hNames : ((namesOf fields).map (groupOf fields)).map HeaderGroup.name =
        namesOf fields := by
      rw [List.map_map]
      exact List.map_id _
    have hOld : ∀ name ∈ namesOf fields,
        groupOf fields name = groupOf (fields ++ [field]) name := by
      intro name hName
      have hNe : field.1 ≠ name := fun hEq => hKnown (hEq ▸ hName)
      exact (groupOf_concat_of_ne fields hNe).symm
    have hNone : named field.1 fields = [] :=
      named_eq_nil fun other hOther hName => hKnown (mem_namesOf.mpr ⟨other, hOther, hName⟩)
    have hNew : groupOf (fields ++ [field]) field.1 = ⟨field.1, #[field.2]⟩ := by
      rw [groupOf_concat_self, groupOf, hNone]
      rfl
    rw [if_neg hKnown, appendGroup_of_new (hNames.symm ▸ hKnown), List.map_append,
      List.map_congr_left hOld, List.map_singleton, hNew]

/-! ### Written fields -/

/-- A written field with its name in lower case. -/
def lowered (field : RawField) : RawField :=
  (lowerText field.1, field.2)

theorem text_of_ofText? {text : String} {name : HeaderName}
    (h : HeaderName.ofText? text = some name) : name.text = lowerText text := by
  rw [HeaderName.ofText?, HeaderName.ofChars?] at h
  split at h
  case isTrue hName =>
    cases h
    rfl
  case isFalse => cases h

theorem bytes_of_ofBytes? {bytes : Bytes} {value : HeaderValue}
    (h : HeaderValue.ofBytes? bytes = some value) : value.bytes = bytes := by
  rw [HeaderValue.ofBytes?] at h
  split at h
  case isTrue hValue =>
    cases h
    rfl
  case isFalse => cases h

theorem text_injective : Function.Injective HeaderName.text := by
  intro first second hText
  have hRead : some first = some second := by
    rw [← HeaderName.ofText?_text first, hText, HeaderName.ofText?_text]
  exact Option.some.inj hRead

/-- The map of fields, as it is written. -/
theorem written_ofFields (fields : List HeaderField) :
    (ofFields fields).written = grouped (fields.map writtenField) := by
  rw [written, toList_ofFields]
  exact (grouped_map text_injective HeaderValue.bytes fields).symm

/-- What a map of fields takes in is one more field, with its name in lower case. -/
theorem exists_of_add_ofFields {fields : List HeaderField} {field : RawField} {map : HeaderMap}
    (h : (ofFields fields).add field = .ok map) :
    ∃ new, writtenField new = lowered field ∧ map = ofFields (fields ++ [new]) := by
  obtain ⟨name, value, hName, hValue, hAppend⟩ := append?_of_add h
  rw [append?] at hAppend
  split at hAppend
  case isFalse => cases hAppend
  case isTrue =>
    have hMap := Option.some.inj hAppend
    rw [appendGroup_ofFields fields (name, value)] at hMap
    refine ⟨(name, value), ?_, hMap.symm⟩
    rw [writtenField, lowered, text_of_ofText? hName, bytes_of_ofBytes? hValue]

theorem addFields_concat (map : HeaderMap) (raw : List RawField) (field : RawField) :
    map.addFields (raw ++ [field]) = (map.addFields raw).bind fun front => front.add field := by
  have hOne : (fun front : HeaderMap => front.addFields [field]) =
      fun front => front.add field := by
    funext front
    rw [addFields, List.foldlM_cons]
    exact bind_pure (front.add field)
  rw [addFields_append, hOne]

/-- **The run.** A map that is built is the map of the fields it was built from, with their names in
lower case. -/
theorem exists_of_addFields {raw : List RawField} {map : HeaderMap}
    (h : empty.addFields raw = .ok map) :
    ∃ fields, fields.map writtenField = raw.map lowered ∧ map = ofFields fields := by
  induction raw using List.reverseRecOn generalizing map with
  | nil =>
      cases h
      exact ⟨[], rfl, rfl⟩
  | append_singleton raw field ih =>
      rw [addFields_concat] at h
      cases hFront : empty.addFields raw with
      | error fault => rw [hFront] at h; cases h
      | ok front =>
          obtain ⟨fields, hFields, rfl⟩ := ih hFront
          rw [hFront] at h
          obtain ⟨new, hNew, rfl⟩ := exists_of_add_ofFields h
          refine ⟨fields ++ [new], ?_, rfl⟩
          rw [List.map_append, List.map_append, hFields, List.map_singleton, List.map_singleton,
            hNew]

/-- A map that is built gives back the written fields name by name. -/
theorem written_of_addFields {raw : List RawField} {map : HeaderMap}
    (h : empty.addFields raw = .ok map) : map.written = grouped (raw.map lowered) := by
  obtain ⟨fields, hFields, rfl⟩ := exists_of_addFields h
  rw [written_ofFields, hFields]

end HeaderMap
end CanisterGateway.Http
