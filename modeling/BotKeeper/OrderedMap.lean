/-! Finite maps kept as lists in strictly ascending order of their keys. Two maps
with the same entries are equal, and listing a map lists its keys in order. -/

namespace BotKeeper

/-- The keys of a map have a strict order, in which of two different keys one is first. -/
class KeyOrder (Key : Type) [LT Key] : Prop where
  irrefl : ∀ {key : Key}, ¬key < key
  trans : ∀ {first second third : Key}, first < second → second < third → first < third
  connected : ∀ {left right : Key}, ¬left < right → ¬right < left → left = right

instance stringOrder : KeyOrder String where
  irrefl := String.lt_irrefl _
  trans := Std.lt_trans
  connected := fun notLess notGreater =>
    Std.le_antisymm (Std.not_lt.1 notGreater) (Std.not_lt.1 notLess)

instance wordOrder : KeyOrder UInt64 where
  irrefl := UInt64.lt_irrefl _
  trans := UInt64.lt_trans
  connected := fun notLess notGreater =>
    UInt64.le_antisymm (UInt64.not_lt.1 notGreater) (UInt64.not_lt.1 notLess)

/-- Lists of texts are compared at the first place where they differ. -/
instance pathOrder : KeyOrder (List String) where
  irrefl := List.lt_irrefl _
  trans := List.lt_trans
  connected := fun notLess notGreater =>
    List.le_antisymm (List.not_lt.1 notGreater) (List.not_lt.1 notLess)

structure OrderedMap (Key : Type) (Value : Type) [LT Key] where
  entries : List (Key × Value)
  ascending : entries.Pairwise (fun left right => left.1 < right.1)

namespace OrderedMap

variable {Key Value : Type} [LT Key]

instance [DecidableEq Key] [DecidableEq Value] : DecidableEq (OrderedMap Key Value) := fun left right =>
  if same : left.entries = right.entries then
    isTrue (by cases left; cases right; simp_all)
  else
    isFalse (fun equal => same (congrArg entries equal))

def empty : OrderedMap Key Value :=
  ⟨[], .nil⟩

instance : Inhabited (OrderedMap Key Value) := ⟨empty⟩

def keys (map : OrderedMap Key Value) : List Key :=
  map.entries.map (·.1)

def values (map : OrderedMap Key Value) : List Value :=
  map.entries.map (·.2)

def get? [DecidableEq Key] (map : OrderedMap Key Value) (key : Key) : Option Value :=
  map.entries.lookup key

def contains [DecidableEq Key] (map : OrderedMap Key Value) (key : Key) : Bool :=
  (map.get? key).isSome

/-- The entries with one more put at its place; an entry of the same key gives way. -/
def place [DecidableLT Key] (key : Key) (value : Value) : List (Key × Value) → List (Key × Value)
  | [] => [(key, value)]
  | entry :: rest =>
    if key < entry.1 then (key, value) :: entry :: rest
    else if entry.1 < key then entry :: place key value rest
    else (key, value) :: rest

theorem mem_place [DecidableLT Key] {key : Key} {value : Value} {entries : List (Key × Value)}
    {entry : Key × Value} (member : entry ∈ place key value entries) :
    entry = (key, value) ∨ entry ∈ entries := by
  induction entries with
  | nil => simpa [place] using member
  | cons first rest ih =>
    unfold place at member
    split at member
    · simpa using member
    · split at member
      · rcases List.mem_cons.1 member with same | inside
        · exact .inr (by simp [same])
        · rcases ih inside with same | inside
          · exact .inl same
          · exact .inr (by simp [inside])
      · rcases List.mem_cons.1 member with same | inside
        · exact .inl same
        · exact .inr (by simp [inside])

theorem place_ascending [DecidableLT Key] [KeyOrder Key]
    (key : Key) (value : Value) {entries : List (Key × Value)}
    (ordered : entries.Pairwise (fun left right => left.1 < right.1)) :
    (place key value entries).Pairwise (fun left right => left.1 < right.1) := by
  induction entries with
  | nil => simp [place]
  | cons first rest ih =>
    obtain ⟨before, tail⟩ := List.pairwise_cons.1 ordered
    unfold place
    split
    · rename_i less
      refine List.pairwise_cons.2 ⟨?_, ordered⟩
      intro entry member
      rcases List.mem_cons.1 member with same | inside
      · exact same ▸ less
      · exact KeyOrder.trans less (before entry inside)
    · rename_i notLess
      split
      · rename_i greater
        refine List.pairwise_cons.2 ⟨?_, ih tail⟩
        intro entry member
        rcases mem_place member with same | inside
        · exact same ▸ greater
        · exact before entry inside
      · rename_i notGreater
        have same : key = first.1 := KeyOrder.connected notLess notGreater
        refine List.pairwise_cons.2 ⟨?_, tail⟩
        intro entry inside
        exact same ▸ before entry inside

def insert [DecidableLT Key] [KeyOrder Key] (map : OrderedMap Key Value) (key : Key)
    (value : Value) : OrderedMap Key Value :=
  ⟨place key value map.entries, place_ascending key value map.ascending⟩

omit [LT Key] in
private theorem lookup_cons_ne [DecidableEq Key] {key : Key} {entry : Key × Value}
    (entries : List (Key × Value)) (different : key ≠ entry.1) :
    (entry :: entries).lookup key = entries.lookup key := by
  obtain ⟨head, value⟩ := entry
  simp only [List.lookup_cons, beq_false_of_ne different]

theorem lookup_place [DecidableEq Key] [DecidableLT Key] [KeyOrder Key] (key other : Key)
    (value : Value) (entries : List (Key × Value)) :
    (place key value entries).lookup other =
      if other = key then some value else entries.lookup other := by
  by_cases same : other = key
  · subst other
    rw [if_pos rfl]
    induction entries with
    | nil => simp [place]
    | cons first rest ih =>
      unfold place
      split
      · simp
      · rename_i notLess
        split
        · rename_i greater
          have different : key ≠ first.1 := fun equal => notLess (equal ▸ greater)
          rw [lookup_cons_ne _ different, ih]
        · simp
  · rw [if_neg same]
    induction entries with
    | nil => rw [place, lookup_cons_ne _ same]
    | cons first rest ih =>
      unfold place
      split
      · rw [lookup_cons_ne _ same]
      · rename_i notLess
        split
        · obtain ⟨head, held⟩ := first
          simp only [List.lookup_cons, ih]
        · rename_i notGreater
          have here : key = first.1 := KeyOrder.connected notLess notGreater
          rw [lookup_cons_ne _ same, lookup_cons_ne _ (here ▸ same)]

/-- What was put at a place last is what stands there. -/
theorem place_place [DecidableLT Key] [KeyOrder Key] (key : Key) (first second : Value)
    (entries : List (Key × Value)) :
    place key second (place key first entries) = place key second entries := by
  induction entries with
  | nil => simp [place, KeyOrder.irrefl]
  | cons entry rest ih =>
    by_cases less : key < entry.1
    · simp [place, less, KeyOrder.irrefl]
    · by_cases greater : entry.1 < key
      · simp [place, less, greater, ih]
      · simp [place, less, greater, KeyOrder.irrefl]

theorem insert_insert [DecidableLT Key] [KeyOrder Key] (map : OrderedMap Key Value) (key : Key)
    (first second : Value) : (map.insert key first).insert key second = map.insert key second := by
  simp only [insert, place_place]

theorem get?_insert [DecidableEq Key] [DecidableLT Key] [KeyOrder Key]
    (map : OrderedMap Key Value) (key other : Key) (value : Value) :
    (map.insert key value).get? other = if other = key then some value else map.get? other :=
  lookup_place key other value map.entries

theorem get?_empty [DecidableEq Key] (key : Key) : (empty : OrderedMap Key Value).get? key = none :=
  rfl

theorem mem_entries [DecidableEq Key] [KeyOrder Key] (map : OrderedMap Key Value) (key : Key)
    (value : Value) : (key, value) ∈ map.entries ↔ map.get? key = some value := by
  obtain ⟨entries, ascending⟩ := map
  simp only [get?]
  induction entries with
  | nil => simp
  | cons first rest ih =>
    obtain ⟨before, ascending⟩ := List.pairwise_cons.1 ascending
    have later := ih ascending
    by_cases same : key = first.1
    · obtain ⟨head, held⟩ := first
      subst same
      have absent : (key, value) ∉ rest := fun member =>
        KeyOrder.irrefl (before (key, value) member)
      simp [absent, eq_comm]
    · rw [lookup_cons_ne rest same, ← later, List.mem_cons]
      exact or_iff_right fun equal => same (congrArg Prod.fst equal)

def mapValues (f : Key → Value → Value) (map : OrderedMap Key Value) : OrderedMap Key Value where
  entries := map.entries.map fun entry => (entry.1, f entry.1 entry.2)
  ascending := List.Pairwise.map _ (fun _ _ less => less) map.ascending

theorem get?_mapValues [DecidableEq Key] (f : Key → Value → Value) (map : OrderedMap Key Value)
    (key : Key) : (map.mapValues f).get? key = (map.get? key).map (f key) := by
  obtain ⟨entries, ascending⟩ := map
  simp only [mapValues, get?]
  induction entries with
  | nil => rfl
  | cons first rest ih =>
    obtain ⟨head, value⟩ := first
    have later := ih (List.pairwise_cons.1 ascending).2
    by_cases here : key = head
    · simp [here]
    · simpa [List.lookup_cons, beq_false_of_ne here] using later

def erase [DecidableEq Key] (map : OrderedMap Key Value) (key : Key) : OrderedMap Key Value where
  entries := map.entries.filter fun entry => entry.1 ≠ key
  ascending := map.ascending.filter _

def ofList [DecidableLT Key] [KeyOrder Key] (entries : List (Key × Value)) :
    OrderedMap Key Value :=
  entries.foldl (fun map entry => map.insert entry.1 entry.2) empty

theorem eq_of_entries {left right : OrderedMap Key Value} (same : left.entries = right.entries) :
    left = right := by
  cases left
  cases right
  cases same
  rfl

/-- A map is known by what stands at its keys. -/
theorem eq_of_get? [DecidableEq Key] [KeyOrder Key] {left right : OrderedMap Key Value}
    (same : ∀ key, left.get? key = right.get? key) : left = right := by
  have distinct (map : OrderedMap Key Value) : map.entries.Nodup := by
    apply map.ascending.imp
    intro first second less equal
    exact KeyOrder.irrefl (equal ▸ less)
  have members (entry : Key × Value) : entry ∈ left.entries ↔ entry ∈ right.entries := by
    rw [mem_entries, mem_entries, same]
  have permuted := (List.perm_ext_iff_of_nodup (distinct left) (distinct right)).2 members
  apply eq_of_entries
  apply permuted.eq_of_pairwise _ left.ascending right.ascending
  intro first second _ _ less greater
  exact (KeyOrder.irrefl (KeyOrder.trans less greater)).elim

/-- Of several entries with one key the last one counts. -/
theorem get?_ofList [DecidableEq Key] [DecidableLT Key] [KeyOrder Key] (key : Key)
    (entries : List (Key × Value)) : (ofList entries).get? key = entries.reverse.lookup key := by
  have placed (held : OrderedMap Key Value) :
      (entries.foldl (fun map entry => map.insert entry.1 entry.2) held).get? key =
        (entries.reverse.lookup key).or (held.get? key) := by
    induction entries generalizing held with
    | nil => rfl
    | cons first rest ih =>
      obtain ⟨name, value⟩ := first
      rw [List.foldl_cons, ih, get?_insert, List.reverse_cons, List.lookup_append, Option.or_assoc]
      by_cases here : key = name
      · simp [here]
      · simp [List.lookup_cons, here, beq_false_of_ne here]
  exact (placed empty).trans (Option.or_none)

theorem place_last [DecidableLT Key] [KeyOrder Key] (key : Key) (value : Value)
    {entries : List (Key × Value)} (last : ∀ entry ∈ entries, entry.1 < key) :
    place key value entries = entries ++ [(key, value)] := by
  induction entries with
  | nil => rfl
  | cons first rest ih =>
    have less : first.1 < key := last first List.mem_cons_self
    have notGreater : ¬key < first.1 := fun greater =>
      KeyOrder.irrefl (KeyOrder.trans less greater)
    simp only [place, if_neg notGreater, if_pos less, List.cons_append,
      ih fun entry member => last entry (List.mem_cons_of_mem _ member)]

theorem ofList_entries [DecidableLT Key] [KeyOrder Key] (map : OrderedMap Key Value) :
    ofList map.entries = map := by
  -- What is inserted comes after everything that was inserted before.
  have grows (rest : List (Key × Value)) : ∀ held : OrderedMap Key Value,
      (held.entries ++ rest).Pairwise (fun left right => left.1 < right.1) →
      (rest.foldl (fun map entry => map.insert entry.1 entry.2) held).entries =
        held.entries ++ rest := by
    induction rest with
    | nil => simp
    | cons next rest ih =>
      intro held ascending
      have last : ∀ entry ∈ held.entries, entry.1 < next.1 := fun entry member =>
        (List.pairwise_append.1 ascending).2.2 entry member next List.mem_cons_self
      have placed : (held.insert next.1 next.2).entries = held.entries ++ [next] :=
        place_last next.1 next.2 last
      rw [List.foldl_cons, ih _ (by simpa [placed] using ascending), placed, List.append_assoc,
        List.singleton_append]
  exact eq_of_entries (grows map.entries empty map.ascending)

end OrderedMap

end BotKeeper
