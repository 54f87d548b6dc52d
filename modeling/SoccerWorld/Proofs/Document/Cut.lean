import SoccerWorld.Document.Record

/-!
# Documents with fields left out

A `Cut` says which fields of which objects in a document are left out, where an object is found by
the path that leads to it.  `Value.without` leaves them out and keeps everything else.

What is then read of the fields of an object:

* `Record.read?_without`: the object is still a record;
* `Record.required_ofEncoded`: a field that must be found is read if it was not left out;
* `Record.withDefault_ofEncoded`, `Record.optional_ofEncoded`: a field that may be absent is read,
  or has its default if it was left out;
* `Value.list?_without`: a list is read item by item.
-/

namespace SoccerWorld

/-- One step from a value to a part of it. -/
inductive Step where
  /-- To the value of a field. -/
  | field (name : String)
  /-- To an item of a list. -/
  | item (index : Nat)

/-- Which fields are left out of the object at the end of a path. -/
def Cut :=
  List Step → String → Bool

namespace Cut

/-- Nothing is left out. -/
def nothing : Cut :=
  fun _ _ => false

/-- A field is left out of the object itself. -/
def drops (cut : Cut) (name : String) : Bool :=
  cut [] name

/-- What is left out of the value of a field. -/
def inField (cut : Cut) (name : String) : Cut :=
  fun path => cut (.field name :: path)

/-- What is left out of an item. -/
def inItem (cut : Cut) (index : Nat) : Cut :=
  fun path => cut (.item index :: path)

/-- None of the fields is left out of the object itself. -/
def Spares (cut : Cut) (names : List String) : Prop :=
  ∀ name ∈ names, cut.drops name = false

theorem Spares.of_subset {cut : Cut} {names fewer : List String} (hSpares : cut.Spares names)
    (hSubset : fewer ⊆ names) : cut.Spares fewer :=
  fun name hName => hSpares name (hSubset hName)

variable {α : Type}

/-- The value of a field: its default if it was left out. -/
def kept (cut : Cut) (name : String) (default value : α) : α :=
  if cut.drops name then default else value

/-- The items of a list, each without what is left out of it. -/
def items (cut : Cut) (f : α → Cut → α) (xs : List α) : List α :=
  xs.mapIdx fun i x => f x (cut.inItem i)

theorem items_eq_self (cut : Cut) {f : α → Cut → α} (hKeeps : ∀ x i, f x (cut.inItem i) = x)
    (xs : List α) : cut.items f xs = xs := by
  rw [items]
  simp only [hKeeps, List.mapIdx_eq_zipIdx_map, List.zipIdx_map_fst]

theorem items_nothing {f : α → Cut → α} (hKeeps : ∀ x, f x nothing = x) (xs : List α) :
    nothing.items f xs = xs :=
  items_eq_self nothing (fun x _ => hKeeps x) xs

end Cut

namespace Value

mutual

/-- The value without the fields that are left out. -/
def without : Value → Cut → Value
  | array items, cut => array (itemsWithout items 0 cut)
  | object fields, cut => object (fieldsWithout fields cut)
  | v, _ => v

/-- The items of a list from an index on, without the fields that are left out of them. -/
def itemsWithout : List Value → Nat → Cut → List Value
  | [], _, _ => []
  | v :: rest, i, cut => without v (cut.inItem i) :: itemsWithout rest (i + 1) cut

/-- The fields of an object that are not left out. -/
def fieldsWithout : List (String × Value) → Cut → List (String × Value)
  | [], _ => []
  | (name, v) :: rest, cut =>
      if cut.drops name then fieldsWithout rest cut
      else (name, without v (cut.inField name)) :: fieldsWithout rest cut

end

mutual

/-- Where nothing is left out a value stays as it is. -/
theorem without_nothing : (v : Value) → v.without .nothing = v
  | null => rfl
  | bool _ => rfl
  | integer _ => rfl
  | real _ => rfl
  | text _ => rfl
  | plain _ => rfl
  | unreadable => rfl
  | array items => congrArg array (itemsWithout_nothing items 0)
  | sequence _ => rfl
  | object fields => congrArg object (fieldsWithout_nothing fields)
  | mapping _ => rfl

theorem itemsWithout_nothing : (items : List Value) → (i : Nat) →
    itemsWithout items i .nothing = items
  | [], _ => rfl
  | v :: rest, i => by
      show v.without .nothing :: itemsWithout rest (i + 1) .nothing = v :: rest
      rw [without_nothing v, itemsWithout_nothing rest (i + 1)]

theorem fieldsWithout_nothing : (fields : List (String × Value)) →
    fieldsWithout fields .nothing = fields
  | [] => rfl
  | (name, v) :: rest => by
      show (name, v.without .nothing) :: fieldsWithout rest .nothing = (name, v) :: rest
      rw [without_nothing v, fieldsWithout_nothing rest]

end

/-- The value of a field of an object. -/
def field? : Value → String → Option Value
  | object fields, name => fields.lookup name
  | _, _ => none

/-! ## The fields of an object -/

/-- The fields that are not left out are found, each without what is left out of it. -/
theorem lookup_fieldsWithout (fields : List (String × Value)) (cut : Cut) (name : String) :
    (fieldsWithout fields cut).lookup name =
      if cut.drops name then none
      else (fields.lookup name).map fun v => v.without (cut.inField name) := by
  induction fields with
  | nil => simp [fieldsWithout]
  | cons field rest ih =>
      obtain ⟨key, v⟩ := field
      rw [fieldsWithout]
      by_cases hKey : name = key
      · subst hKey
        by_cases hDrops : cut.drops name = true
        · rw [if_pos hDrops, ih, if_pos hDrops, if_pos hDrops]
        · rw [if_neg hDrops, if_neg hDrops, List.lookup_cons_self, List.lookup_cons_self,
            Option.map_some]
      · have hOther : (name == key) = false := beq_eq_false_iff_ne.mpr hKey
        split
        · rw [ih, List.lookup_cons, hOther]
        · rw [List.lookup_cons, hOther, ih, List.lookup_cons, hOther]

theorem keys_fieldsWithout (fields : List (String × Value)) (cut : Cut) :
    ((fieldsWithout fields cut).map Prod.fst).Sublist (fields.map Prod.fst) := by
  induction fields with
  | nil => exact List.Sublist.refl _
  | cons field rest ih =>
      obtain ⟨key, v⟩ := field
      rw [fieldsWithout]
      split
      · exact ih.cons key
      · exact ih.cons_cons key

/-- An object of fields that are all spared keeps them. -/
theorem fieldsWithout_of_spares {fields : List (String × Value)} {cut : Cut}
    (hSpares : cut.Spares (fields.map Prod.fst)) :
    fieldsWithout fields cut = fields.map fun field =>
      (field.1, field.2.without (cut.inField field.1)) := by
  induction fields with
  | nil => rfl
  | cons field rest ih =>
      obtain ⟨key, v⟩ := field
      have hKey : cut.drops key = false := hSpares key List.mem_cons_self
      rw [fieldsWithout, hKey, ih fun name hName => hSpares name (List.mem_cons_of_mem _ hName)]
      rfl

end Value

/-! ## A record -/

/-- After a part was read, reading goes on with it. -/
theorem bind_of_read {α β : Type} {read : Option α} {a : α} (hRead : read = some a)
    (next : α → Option β) : read >>= next = next a := by
  rw [hRead]
  rfl

namespace Record

/-- The record of a written object without the fields that are left out. -/
def ofEncoded (v : Value) (cut : Cut) : Record :=
  match v with
  | .object fields => ⟨Value.fieldsWithout fields cut, false⟩
  | _ => ⟨[], false⟩

/-- An object whose keys are names of a record in their order is that record, without any of its
fields. -/
theorem read?_without {names : List String} (v : Value) {fields : List (String × Value)}
    (hFields : v = .object fields) (hNames : names.Nodup)
    (hKeys : (fields.map Prod.fst).Sublist names) (cut : Cut) :
    read? names (v.without cut) = some (ofEncoded v cut) := by
  have hSublist := (Value.keys_fieldsWithout fields cut).trans hKeys
  have hKnown : (Value.fieldsWithout fields cut).filter (fun field => names.contains field.1) =
      Value.fieldsWithout fields cut := by
    refine List.filter_eq_self.mpr fun field hField => ?_
    rw [List.contains_eq_mem, decide_eq_true_eq]
    exact hSublist.subset (List.mem_map_of_mem hField)
  rw [hFields, Value.without, read?, ofFields?, hKnown]
  exact if_pos (hNames.sublist hSublist)

variable {α : Type} {part : Value} (v : Value) (cut : Cut) (name : String)

theorem get?_ofEncoded (hField : v.field? name = some part) :
    (ofEncoded v cut).get? name =
      if cut.drops name then none else some (part.without (cut.inField name)) := by
  cases v with
  | object fields =>
      have hLookup : fields.lookup name = some part := hField
      rw [ofEncoded, get?, Value.lookup_fieldsWithout, hLookup, Option.map_some]
  | _ => contradiction

/-- A field that must be found is read, if it was not left out. -/
theorem required_ofEncoded {read : Value → Option α} {x : α}
    (hField : v.field? name = some part) (hKept : cut.drops name = false)
    (hRead : read (part.without (cut.inField name)) = some x) :
    (ofEncoded v cut).required name read = some x := by
  rw [required, get?_ofEncoded v cut name hField, hKept]
  exact hRead

/-- A field that may be absent is read, or has its default. -/
theorem withDefault_ofEncoded {read : Value → Option α} {x : α}
    (hField : v.field? name = some part)
    (hRead : read (part.without (cut.inField name)) = some x) (default : α) :
    (ofEncoded v cut).withDefault name default read = some (cut.kept name default x) := by
  rw [withDefault, get?_ofEncoded v cut name hField, Cut.kept]
  by_cases hDrops : cut.drops name = true
  · rw [if_pos hDrops, if_pos hDrops]
  · rw [if_neg hDrops, if_neg hDrops]
    exact hRead

/-- A field that was not written has its default. -/
theorem withDefault_of_field?_eq_none (hField : v.field? name = none)
    (read : Value → Option α) (default : α) :
    (ofEncoded v cut).withDefault name default read = some default := by
  have hGet : (ofEncoded v cut).get? name = none := by
    cases v with
    | object fields =>
        have hLookup : fields.lookup name = none := hField
        rw [ofEncoded, get?, Value.lookup_fieldsWithout, hLookup]
        exact ite_self none
    | _ => rfl
  rw [withDefault, hGet]

/-- An optional field is read; it is absent where it was written as absent or left out. -/
theorem optional_ofEncoded {write : α → Value} {read : Value → Option α} {f : α → α}
    {x : Option α} (hField : v.field? name = some (.ofOption write x))
    (hNull : ∀ a, x = some a → ((write a).without (cut.inField name)).isNull = false)
    (hRead : ∀ a, x = some a → read ((write a).without (cut.inField name)) = some (f a)) :
    (ofEncoded v cut).optional name read = some (cut.kept name none (x.map f)) := by
  refine withDefault_ofEncoded v cut name hField ?_ none
  cases x with
  | none => rfl
  | some a =>
      rw [Value.ofOption, Value.optional?, hNull a rfl, hRead a rfl]
      rfl

/-- An optional field of which no part can be left out. -/
theorem optional_ofEncoded_leaf {write : α → Value} {read : Value → Option α} {x : Option α}
    (hField : v.field? name = some (.ofOption write x))
    (hNull : ∀ a, x = some a → ((write a).without (cut.inField name)).isNull = false)
    (hRead : ∀ a, x = some a → read ((write a).without (cut.inField name)) = some a) :
    (ofEncoded v cut).optional name read = some (cut.kept name none x) := by
  have hMap := optional_ofEncoded v cut name hField hNull hRead
  rwa [Option.map_id'] at hMap

end Record

/-! ## A list -/

namespace Value

theorem mapM_itemsWithout {α : Type} {write : α → Value} {read : Value → Option α}
    {f : α → Cut → α} {cut : Cut} {xs : List α} (hRead : ∀ x ∈ xs, ∀ i,
      read ((write x).without (cut.inItem i)) = some (f x (cut.inItem i)))
    (start : Nat) :
    (itemsWithout (xs.map write) start cut).mapM read =
      some (xs.mapIdx fun i x => f x (cut.inItem (start + i))) := by
  induction xs generalizing start with
  | nil => rfl
  | cons x rest ih =>
      have hRest := ih (fun later hLater => hRead later (List.mem_cons_of_mem _ hLater)) (start + 1)
      have hShift : ∀ i, start + 1 + i = start + (i + 1) := by omega
      simp only [hShift] at hRest
      rw [List.map_cons, itemsWithout, List.mapM_cons, hRead x List.mem_cons_self, hRest,
        List.mapIdx_cons]
      rfl

/-- A list is read item by item, each without what is left out of it. -/
theorem list?_without {α : Type} {write : α → Value} {read : Value → Option α}
    {f : α → Cut → α} {cut : Cut} {xs : List α} (hRead : ∀ x ∈ xs, ∀ i,
      read ((write x).without (cut.inItem i)) = some (f x (cut.inItem i))) :
    ((ofList write xs).without cut).list? read = some (cut.items f xs) := by
  have hItems := mapM_itemsWithout hRead 0
  simp only [Nat.zero_add] at hItems
  exact hItems

/-- A list of items of which no part can be left out. -/
theorem list?_without_leaf {α : Type} {write : α → Value} {read : Value → Option α} {cut : Cut}
    {xs : List α} (hRead : ∀ x ∈ xs, ∀ i, read ((write x).without (cut.inItem i)) = some x) :
    ((ofList write xs).without cut).list? read = some xs := by
  have hItems := list?_without (f := fun x _ => x) hRead
  rwa [Cut.items_eq_self cut fun _ _ => rfl] at hItems

end Value

end SoccerWorld
