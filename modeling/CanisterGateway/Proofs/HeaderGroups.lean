import Mathlib.Data.List.Induction
import CanisterGateway.Http.Message

/-!
# What a header map is once it is built

Fields come in any order and names repeat, but the map that they are added to groups them. Adding
its own fields, in the order of iteration, to an empty map builds the same map again: the grouping
has nothing left to do, and the limit on the number of names is met as it was met before. The
latter needs an invariant, for a map that has all its names takes no further values: the last of
them came with the last field.

## Main results

* `adds` — what adding one written header comes to.
* `Built.append?`, `built_of_addFields` — what holds of every map that is built field by field.
* `Built.addFields_written` — a map is built again from its own fields.
* `Built.mapValues` — the values do not matter for that.
* `Request.build_eq_ok_iff` — what a request is built from.
-/

namespace CanisterGateway.Http

namespace HeaderMap

/-! ## Appending to groups -/

section

variable {name : HeaderName} {value : HeaderValue} {groups : List HeaderGroup}

/-- Groups of other names are passed over. -/
theorem appendGroup_append {before : List HeaderGroup}
    (hNew : name ∉ before.map HeaderGroup.name) :
    appendGroup name value (before ++ groups) = before ++ appendGroup name value groups := by
  induction before with
  | nil => rfl
  | cons group before ih =>
      rw [List.map_cons, List.mem_cons, not_or] at hNew
      obtain ⟨hHead, hRest⟩ := hNew
      rw [List.cons_append, appendGroup, if_neg (Ne.symm hHead), ih hRest, List.cons_append]

/-- A new name opens a group at the end. -/
theorem appendGroup_of_new (hNew : name ∉ groups.map HeaderGroup.name) :
    appendGroup name value groups = groups ++ [⟨name, #[value]⟩] := by
  have hAppend : appendGroup name value (groups ++ []) = groups ++ appendGroup name value [] :=
    appendGroup_append hNew
  rw [List.append_nil] at hAppend
  exact hAppend

/-- A known name opens none. -/
theorem map_name_appendGroup_of_known (hKnown : name ∈ groups.map HeaderGroup.name) :
    (appendGroup name value groups).map HeaderGroup.name = groups.map HeaderGroup.name := by
  induction groups with
  | nil => cases hKnown
  | cons group groups ih =>
      rw [appendGroup]
      split
      · rfl
      · rename_i hOther
        have hLater := (List.mem_cons.mp hKnown).resolve_left (Ne.symm hOther)
        rw [List.map_cons, ih hLater, List.map_cons]

/-- No group is without values for it. -/
theorem values_ne_of_mem_appendGroup (h : ∀ group ∈ groups, group.values ≠ #[])
    {group : HeaderGroup} (hGroup : group ∈ appendGroup name value groups) :
    group.values ≠ #[] := by
  induction groups with
  | nil =>
      rw [List.mem_singleton.mp hGroup]
      exact nofun
  | cons first groups ih =>
      obtain ⟨hFirst, hGroups⟩ := List.forall_mem_cons.mp h
      rw [appendGroup] at hGroup
      split at hGroup
      · rcases List.mem_cons.mp hGroup with rfl | hRest
        · exact Array.push_ne_empty
        · exact hGroups group hRest
      · rcases List.mem_cons.mp hGroup with rfl | hRest
        · exact hFirst
        · exact ih hGroups hRest

end

/-! ## The invariant -/

/-- What holds of every map that is built field by field. -/
structure Built (map : HeaderMap) : Prop where
  nodup : (map.groups.map HeaderGroup.name).Nodup
  values_ne : ∀ group ∈ map.groups, group.values ≠ #[]
  length_le : map.groups.length ≤ capacity
  last_of_full : map.groups.length = capacity → ∀ group ∈ map.groups.getLast?, group.values.size = 1

theorem built_empty : Built empty where
  nodup := List.nodup_nil
  values_ne := nofun
  length_le := Nat.zero_le _
  last_of_full := nofun

/-- The step. -/
theorem Built.append? {map map' : HeaderMap} (h : map.Built) {name : HeaderName}
    {value : HeaderValue} (hAppend : map.append? name value = some map') : map'.Built := by
  rw [HeaderMap.append?] at hAppend
  split at hAppend
  case isFalse => cases hAppend
  case isTrue hRoom =>
    cases hAppend
    have hValues : ∀ group ∈ appendGroup name value map.groups, group.values ≠ #[] :=
      fun _ hGroup => values_ne_of_mem_appendGroup h.values_ne hGroup
    by_cases hKnown : name ∈ map.groups.map HeaderGroup.name
    · have hNames : (appendGroup name value map.groups).map HeaderGroup.name =
          map.groups.map HeaderGroup.name := map_name_appendGroup_of_known hKnown
      have hLength := congrArg List.length hNames
      rw [List.length_map, List.length_map] at hLength
      constructor
      case nodup => exact hNames ▸ h.nodup
      case values_ne => exact hValues
      case length_le => exact hLength ▸ h.length_le
      case last_of_full => exact fun hFull => absurd (hLength ▸ hFull) (Nat.ne_of_lt hRoom)
    · rw [appendGroup_of_new hKnown] at hValues ⊢
      constructor
      case nodup =>
        rw [List.map_append, List.nodup_append]
        refine ⟨h.nodup, List.pairwise_singleton _ _, ?_⟩
        rintro other hOther new hNew rfl
        have hSame : other = name := List.mem_singleton.mp hNew
        exact hKnown (hSame ▸ hOther)
      case values_ne => exact hValues
      case length_le =>
        rw [List.length_append, List.length_singleton]
        exact hRoom
      case last_of_full =>
        intro _ group hGroup
        rw [List.getLast?_concat, Option.mem_some_iff] at hGroup
        rw [← hGroup]
        rfl

/-- What adding a written header comes to: its name is read first and its value next, and then there
has to be room for it. -/
inductive Adds (map : HeaderMap) (field : RawField) : Except Fault HeaderMap → Prop
  | badName (hName : HeaderName.ofText? field.1 = none) : Adds map field (.error .headerName)
  | badValue {name : HeaderName} (hName : HeaderName.ofText? field.1 = some name)
      (hValue : HeaderValue.ofBytes? field.2 = none) : Adds map field (.error .headerValue)
  | full {name : HeaderName} {value : HeaderValue}
      (hName : HeaderName.ofText? field.1 = some name)
      (hValue : HeaderValue.ofBytes? field.2 = some value)
      (hAppend : map.append? name value = none) : Adds map field (.error .headerCapacity)
  | added {name : HeaderName} {value : HeaderValue} {grown : HeaderMap}
      (hName : HeaderName.ofText? field.1 = some name)
      (hValue : HeaderValue.ofBytes? field.2 = some value)
      (hAppend : map.append? name value = some grown) : Adds map field (.ok grown)

theorem adds (map : HeaderMap) (field : RawField) : Adds map field (map.add field) := by
  unfold add
  split
  case h_1 hName => exact .badName hName
  case h_2 name hName =>
    split
    case h_1 hValue => exact .badValue hName hValue
    case h_2 value hValue =>
      split
      case h_1 hAppend => exact .full hName hValue hAppend
      case h_2 grown hAppend => exact .added hName hValue hAppend

/-- What is added to a map is read and appended to it. -/
theorem append?_of_add {map map' : HeaderMap} {field : RawField} (h : map.add field = .ok map') :
    ∃ name value, HeaderName.ofText? field.1 = some name ∧
      HeaderValue.ofBytes? field.2 = some value ∧ map.append? name value = some map' := by
  have hAdds := adds map field
  rw [h] at hAdds
  cases hAdds with
  | added hName hValue hAppend => exact ⟨_, _, hName, hValue, hAppend⟩

/-- The run. -/
theorem Built.addFields {map map' : HeaderMap} (h : map.Built) {fields : List RawField}
    (hAdded : map.addFields fields = .ok map') : map'.Built := by
  induction fields generalizing map with
  | nil =>
      cases hAdded
      exact h
  | cons field fields ih =>
      rw [HeaderMap.addFields, List.foldlM_cons] at hAdded
      cases hField : map.add field with
      | error fault => rw [hField] at hAdded; cases hAdded
      | ok next =>
          rw [hField] at hAdded
          obtain ⟨name, value, -, -, hAppend⟩ := append?_of_add hField
          exact ih (h.append? hAppend) hAdded

theorem built_of_addFields {fields : List RawField} {map : HeaderMap}
    (h : empty.addFields fields = .ok map) : map.Built :=
  built_empty.addFields h

/-! ## Building a map again -/

/-- A field as it is written. -/
def writtenField (field : HeaderField) : RawField :=
  (field.1.text, field.2.bytes)

/-- The fields as they are written, in the order of iteration. -/
def written (map : HeaderMap) : List RawField :=
  map.toList.map writtenField

theorem add_writtenField {map map' : HeaderMap} {field : HeaderField}
    (h : map.append? field.1 field.2 = some map') : map.add (writtenField field) = .ok map' := by
  simp only [add, writtenField, HeaderName.ofText?_text, HeaderValue.ofBytes?_bytes, h]

/-- Values are added to the group that was opened last. -/
theorem addFields_values {before : List HeaderGroup} {name : HeaderName}
    (hNew : name ∉ before.map HeaderGroup.name) (held values : List HeaderValue)
    (hRoom : values = [] ∨ before.length + 1 < capacity) :
    (HeaderMap.mk (before ++ [⟨name, held.toArray⟩])).addFields
        (values.map fun value => writtenField (name, value)) =
      .ok ⟨before ++ [⟨name, (held ++ values).toArray⟩]⟩ := by
  induction values generalizing held with
  | nil =>
      rw [List.append_nil]
      rfl
  | cons value values ih =>
      have hLess : before.length + 1 < capacity := hRoom.resolve_left nofun
      have hAppend : (HeaderMap.mk (before ++ [⟨name, held.toArray⟩])).append? name value =
          some ⟨before ++ [⟨name, (held ++ [value]).toArray⟩]⟩ := by
        rw [append?, List.length_append, List.length_singleton, if_pos hLess,
          appendGroup_append hNew, appendGroup, if_pos rfl, List.push_toArray]
      rw [List.map_cons, addFields, List.foldlM_cons, add_writtenField hAppend]
      have hRest := ih (held ++ [value]) (.inr hLess)
      rw [List.append_assoc] at hRest
      exact hRest

/-- Before its last group came, there was room for it. -/
theorem Built.length_init {before : List HeaderGroup} {group : HeaderGroup}
    (h : Built ⟨before ++ [group]⟩) : before.length < capacity := by
  have hAll := h.length_le
  rw [List.length_append, List.length_singleton] at hAll
  exact hAll

/-- The last group is added to the groups before it. -/
theorem Built.addFields_last {before : List HeaderGroup} {group : HeaderGroup}
    (h : Built ⟨before ++ [group]⟩) :
    (HeaderMap.mk before).addFields (group.fields.map writtenField) =
      .ok ⟨before ++ [group]⟩ := by
  have hLength : before.length < capacity := h.length_init
  have hNew : group.name ∉ before.map HeaderGroup.name := by
    have hNames := h.nodup
    rw [List.map_append, List.nodup_append] at hNames
    intro hMem
    exact hNames.2.2 _ hMem _ (List.mem_singleton.mpr rfl) rfl
  obtain ⟨name, ⟨values⟩⟩ := group
  cases values with
  | nil => exact absurd rfl (h.values_ne _ List.mem_concat_self)
  | cons value values =>
      have hRoom : values = [] ∨ before.length + 1 < capacity := by
        rcases Nat.lt_or_eq_of_le (Nat.succ_le_of_lt hLength) with hLess | hFull
        · exact .inr hLess
        · have hOne := h.last_of_full (List.length_append.trans hFull) _ List.getLast?_concat
          exact .inl (List.eq_nil_of_length_eq_zero (Nat.succ.inj hOne))
      have hAppend : (HeaderMap.mk before).append? name value =
          some ⟨before ++ [⟨name, #[value]⟩]⟩ := by
        rw [HeaderMap.append?, if_pos hLength, appendGroup_of_new hNew]
      rw [HeaderGroup.fields, List.map_map, List.map_cons, HeaderMap.addFields, List.foldlM_cons,
        Function.comp, add_writtenField hAppend]
      exact addFields_values hNew [value] values hRoom

/-- Without its last group a map is still built. -/
theorem Built.init {before : List HeaderGroup} {group : HeaderGroup}
    (h : Built ⟨before ++ [group]⟩) : Built ⟨before⟩ := by
  have hLength := h.length_init
  constructor
  case nodup =>
    have hNames := h.nodup
    rw [List.map_append] at hNames
    exact (List.nodup_append.mp hNames).1
  case values_ne => exact fun other hOther => h.values_ne other (List.mem_append_left _ hOther)
  case length_le => exact Nat.le_of_lt hLength
  case last_of_full => exact fun hFull => absurd hFull (Nat.ne_of_lt hLength)

/-- **Grouping is done once.** A map is built again from its own fields. -/
theorem Built.addFields_written {map : HeaderMap} (h : map.Built) :
    empty.addFields map.written = .ok map := by
  obtain ⟨groups⟩ := map
  induction groups using List.reverseRecOn with
  | nil => rfl
  | append_singleton before group ih =>
      have hWritten : written ⟨before ++ [group]⟩ =
          written ⟨before⟩ ++ group.fields.map writtenField := by
        rw [written, toList, List.flatMap_append, List.map_append, List.flatMap_singleton]
        rfl
      rw [hWritten, addFields_append, ih h.init]
      exact h.addFields_last

/-! ## Other values -/

/-- The map with a change made to each of its values. -/
def mapValues (change : HeaderValue → HeaderValue) (map : HeaderMap) : HeaderMap :=
  ⟨map.groups.map fun group => ⟨group.name, group.values.map change⟩⟩

theorem toList_mapValues (change : HeaderValue → HeaderValue) (map : HeaderMap) :
    (map.mapValues change).toList = map.toList.map fun field => (field.1, change field.2) := by
  rw [toList, toList, mapValues, List.flatMap_map, List.map_flatMap]
  refine congrArg map.groups.flatMap (funext fun group => ?_)
  rw [HeaderGroup.fields, HeaderGroup.fields, Array.toList_map, List.map_map, List.map_map]
  rfl

/-- A map is as it was if none of its values is changed. -/
theorem mapValues_eq_self {change : HeaderValue → HeaderValue} {map : HeaderMap}
    (h : ∀ field ∈ map.toList, change field.2 = field.2) : map.mapValues change = map := by
  obtain ⟨groups⟩ := map
  have hGroup : ∀ group ∈ groups, HeaderGroup.mk group.name (group.values.map change) = group := by
    intro group hMem
    obtain ⟨name, ⟨values⟩⟩ := group
    have hValues : values.map change = values := by
      refine (List.map_congr_left fun value hValue => ?_).trans (List.map_id values)
      exact h (name, value)
        (List.mem_flatMap.mpr ⟨_, hMem, List.mem_map.mpr ⟨value, hValue, rfl⟩⟩)
    rw [List.map_toArray, hValues]
  exact congrArg HeaderMap.mk ((List.map_congr_left hGroup).trans (List.map_id groups))

theorem Built.mapValues {map : HeaderMap} (h : map.Built) (change : HeaderValue → HeaderValue) :
    (map.mapValues change).Built := by
  constructor
  case nodup =>
    rw [HeaderMap.mapValues, List.map_map]
    exact h.nodup
  case values_ne =>
    intro group hGroup
    obtain ⟨old, hOld, rfl⟩ := List.mem_map.mp hGroup
    intro hNone
    exact h.values_ne old hOld (Array.map_eq_empty_iff.mp hNone)
  case length_le =>
    rw [HeaderMap.mapValues, List.length_map]
    exact h.length_le
  case last_of_full =>
    intro hFull group hGroup
    rw [HeaderMap.mapValues, List.length_map] at hFull
    rw [HeaderMap.mapValues, List.getLast?_map] at hGroup
    obtain ⟨old, hOld, rfl⟩ := Option.map_eq_some_iff.mp hGroup
    rw [Array.size_map]
    exact h.last_of_full hFull old hOld

end HeaderMap

/-! ## Requests -/

/-- A request is built exactly from admissible parts. -/
theorem Request.build_eq_ok_iff {method : String} {target : Bytes} {fields : List RawField}
    {body : Bytes} {request : Request} :
    Request.build method target fields body = .ok request ↔
      Method.ofText? method = some request.method ∧
        Target.read .international target = .ok request.target ∧
        HeaderMap.empty.addFields fields = .ok request.headers ∧ body = request.body := by
  rw [Request.build]
  cases Method.ofText? method with
  | none => exact ⟨nofun, nofun⟩
  | some readMethod =>
      cases Target.read .international target with
      | error fault => exact ⟨nofun, nofun⟩
      | ok readTarget =>
          cases HeaderMap.empty.addFields fields with
          | error fault => exact ⟨nofun, nofun⟩
          | ok headers =>
              constructor
              · rintro ⟨⟩
                exact ⟨rfl, rfl, rfl, rfl⟩
              · rintro ⟨hMethod, hTarget, hHeaders, rfl⟩
                cases hMethod
                cases hTarget
                cases hHeaders
                rfl

end CanisterGateway.Http
