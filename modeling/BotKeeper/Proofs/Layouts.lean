import BotKeeper.Codec.Record

/-! The forms in which a document may give a record. What is written is an object of all the
fields. A document may leave out those that have a default, or give the values alone, in the
order in which they are written. -/

namespace BotKeeper.Proofs
open Codec

inductive Layout where
  | array
  /-- An object without some of the fields that may be left out. -/
  | object (dropped : String → Bool)

namespace Layout

def whole : Layout :=
  .object fun _ => false

def drops : Layout → String → Bool
  | array, _ => false
  | object dropped, name => dropped name

def named : Layout → Bool
  | array => false
  | object _ => true

/-- A record in this form. The needed fields are never left out. -/
def write (layout : Layout) (needed : List String) (entries : List (String × Value)) : Value :=
  match layout with
  | array => .arr (entries.map (·.2))
  | object dropped =>
    .obj (entries.filter fun (name, _) => needed.contains name || !dropped name)

/-- A written record in this form, what its fields hold in forms of their own. -/
def rewrite (layout : Layout) (needed : List String) (inside : String → Value → Value) :
    Value → Value
  | .obj entries => layout.write needed (entries.map fun (name, value) => (name, inside name value))
  | value => value

def given (layout : Layout) (needed : List String) (entries : List (String × Value)) : Fields where
  get? name := if needed.contains name || !layout.drops name then entries.lookup name else none
  named := layout.named

/-- What becomes of a field: it has its default if it is left out. -/
def keep (layout : Layout) (name : String) (absent value : α) : α :=
  if layout.drops name then absent else value

end Layout

def asWritten (_ : String) (value : Value) : Value :=
  value

variable {layout : Layout} {needed names : List String} {entries : List (String × Value)}
  {name : String} {value : Value} {read : Value → Option α}

@[simp] theorem rewrite_obj (inside : String → Value → Value) :
    layout.rewrite needed inside (.obj entries) =
      layout.write needed (entries.map fun (name, value) => (name, inside name value)) :=
  rfl

@[simp] theorem write_whole : Layout.whole.write needed entries = .obj entries := by
  simp [Layout.whole, Layout.write]

private theorem lookup_filter (keeps : String → Bool) (entries : List (String × Value)) :
    (entries.filter fun (name, _) => keeps name).lookup name =
      if keeps name then entries.lookup name else none := by
  induction entries with
  | nil => simp
  | cons entry rest ih =>
    obtain ⟨key, value⟩ := entry
    by_cases same : name = key
    · subst key
      cases kept : keeps name <;> simp [kept, ih]
    · have other : (name == key) = false := beq_false_of_ne same
      cases kept : keeps key <;> simp [kept, List.lookup_cons, other, ih]

private theorem fields?_object {dropped : String → Bool} (surplus : Surplus)
    (known : ∀ entry ∈ entries, entry.1 ∈ names ∨ entry.2.isReadable = true) :
    fields? surplus names ((Layout.object dropped).write needed entries) =
      some ((Layout.object dropped).given needed entries) := by
  have passed : (entries.filter fun (name, _) => needed.contains name || !dropped name).all
      (fun (name, value) => names.contains name || value.isReadable) = true := by
    simp only [List.all_eq_true, List.mem_filter, Bool.or_eq_true, List.contains_iff_mem]
    intro entry member
    exact known entry member.1
  simp only [Layout.write, fields?, if_pos passed, Layout.given, Layout.drops, Layout.named,
    lookup_filter fun name => needed.contains name || !dropped name]
  rfl

/-- A record gives the fields that its form leaves in, under the names it is written with. -/
theorem fields?_write (surplus : Surplus) (declared : entries.map (·.1) = names) :
    fields? surplus names (layout.write needed entries) = some (layout.given needed entries) := by
  subst declared
  cases layout with
  | array =>
    have zipped : (entries.map (·.1)).zip (entries.map (·.2)) = entries :=
      (List.zip_of_prod rfl rfl).symm
    simp [Layout.write, fields?, Layout.given, Layout.drops, Layout.named, zipped]
  | object dropped =>
    exact fields?_object surplus fun entry member => .inl (List.mem_map_of_mem member)

@[simp] theorem required_given (need : needed.contains name = true) :
    (layout.given needed entries).required name read = (entries.lookup name).bind read := by
  simp only [Fields.required, Layout.given, need, Bool.true_or, if_true]

@[simp] theorem withDefault_given {absent : α} (free : needed.contains name = false) :
    (layout.given needed entries).withDefault name read absent =
      if layout.drops name then some absent else (entries.lookup name).elim (some absent) read := by
  cases dropped : layout.drops name
  · simp only [Fields.withDefault, Layout.given, free, dropped, Bool.not_false, Bool.or_true,
      if_true, Bool.false_eq_true, if_false]
    cases entries.lookup name <;> rfl
  · simp only [Fields.withDefault, Layout.given, free, dropped, Bool.not_true, Bool.or_self,
      Bool.false_eq_true, if_true, if_false]

@[simp] theorem some_keep (absent value : α) :
    (if layout.drops name then some absent else some value) =
      some (layout.keep name absent value) := by
  unfold Layout.keep
  split <;> rfl

/-! A choice is its kind and then its record; in an object the kind is one field among others. -/

namespace Layout

def rest (layout : Layout) (needed : List String) (kind : String)
    (entries : List (String × Value)) : Value :=
  match layout with
  | array => .arr (entries.map (·.2))
  | object _ => layout.write needed (("kind", .str kind) :: entries)

def told (layout : Layout) (needed : List String) (kind : String)
    (entries : List (String × Value)) : Fields :=
  match layout with
  | array => layout.given needed entries
  | object _ => layout.given needed (("kind", .str kind) :: entries)

end Layout

variable {kind : String}

@[simp] theorem choice?_write (need : needed.contains "kind" = true) :
    choice? (layout.write needed (("kind", .str kind) :: entries)) =
      some (kind, layout.rest needed kind entries) := by
  cases layout with
  | array => rfl
  | object dropped =>
    simp only [Layout.rest, Layout.write, List.filter_cons, need, Bool.true_or, if_true, choice?,
      List.lookup_cons_self]

theorem fields?_rest (surplus : Surplus) (declared : entries.map (·.1) = names) :
    fields? surplus names (layout.rest needed kind entries) =
      some (layout.told needed kind entries) := by
  cases layout with
  | array =>
    change fields? surplus names (Layout.array.write needed entries) = _
    exact fields?_write surplus declared
  | object dropped =>
    apply fields?_object
    intro entry member
    rcases List.mem_cons.1 member with rfl | member
    · exact .inr rfl
    · exact .inl (declared ▸ List.mem_map_of_mem member)

private theorem told_get? (other : name ≠ "kind") :
    (layout.told needed kind entries).get? name = (layout.given needed entries).get? name := by
  have apart : (name == "kind") = false := beq_false_of_ne other
  cases layout with
  | array => rfl
  | object dropped => simp only [Layout.told, Layout.given, List.lookup_cons, apart]

@[simp] theorem required_told (need : needed.contains name = true) (other : name ≠ "kind") :
    (layout.told needed kind entries).required name read = (entries.lookup name).bind read := by
  rw [Fields.required, told_get? other, ← required_given need, Fields.required]

private theorem nullable_filled {fields : Fields} (there : fields.get? name = some value)
    (filled : value ≠ .null) : fields.nullable name read = (read value).map some := by
  cases value with
  | null => exact absurd rfl filled
  | _ => simp only [Fields.nullable, there]

/-- A field that may be empty is empty if it is left out. -/
theorem nullable_told {write : α → Value} {content : Option α}
    (free : needed.contains name = false) (other : name ≠ "kind")
    (there : entries.lookup name = some (nullOr write content))
    (filled : ∀ content, write content ≠ .null)
    (reads : ∀ content, read (write content) = some content) :
    (layout.told needed kind entries).nullable name read =
      some (layout.keep name none content) := by
  have given : (layout.told needed kind entries).get? name =
      if layout.drops name then none else some (nullOr write content) := by
    simp only [told_get? other, Layout.given, free, there, Bool.false_or]
    cases layout.drops name <;> rfl
  cases dropped : layout.drops name with
  | false =>
    simp only [dropped, Bool.false_eq_true, if_false] at given
    simp only [Layout.keep, dropped, Bool.false_eq_true, if_false]
    cases content with
    | none => simp only [Fields.nullable, given, nullOr]
    | some content => 
      have inside : read (nullOr write (some content)) = some content := reads content
      rw [nullable_filled given (filled content), inside, Option.map_some]
  | true =>
    -- Only an object leaves something out.
    cases layout with
    | array => cases dropped
    | object leave => simp only [Fields.nullable, given, dropped, Layout.keep, if_true]; rfl

end BotKeeper.Proofs
