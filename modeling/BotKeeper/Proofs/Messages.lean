import BotKeeper.Error
import Mathlib.Data.List.Nodup
import Mathlib.Data.List.Perm.Basic

/-! What an error says. A payload is a map, so its entries can be enumerated in any order. Keys and
values are any texts: a key may be the beginning of another one, and may contain the sign that
stands behind a key. Texts are put in order by their characters; a later character has greater
bytes, so this is the order of their bytes, too. Main statement: a message depends on the kind of
an error and on its map alone, and shows each entry once, sorted by what it shows of them. -/

namespace BotKeeper.Proofs
open String

/-- The bytes of a later character are greater, whatever follows those of both. -/
theorem utf8EncodeChar_lt {left right : Char} (less : left < right) (before after : List UInt8) :
    utf8EncodeChar left ++ before < utf8EncodeChar right ++ after := by
  have codes : left.val.toNat < right.val.toNat := less
  have bound : right.val.toNat < 0x110000 := by
    rcases right.valid with low | ⟨_, high⟩
    · exact Nat.lt_trans low (by decide)
    · exact high
  -- Longer encodings begin with greater bytes; those of one length are digits of the codes.
  fun_cases utf8EncodeChar left <;> fun_cases utf8EncodeChar right <;>
    simp (disch := omega) only [List.cons_append, List.nil_append, List.cons_lt_cons_iff,
      UInt8.lt_iff_toNat_lt, ← UInt8.toNat_inj, UInt8.toNat_ofNat', Nat.mod_eq_of_lt] <;>
    omega

private theorem flatMap_utf8EncodeChar_lt {left right : List Char} (less : left < right) :
    left.flatMap utf8EncodeChar < right.flatMap utf8EncodeChar := by
  induction less with
  | @nil first rest =>
    rw [List.flatMap_nil, List.flatMap_cons]
    cases bytes : utf8EncodeChar first with
    | nil => exact absurd bytes utf8EncodeChar_ne_nil
    | cons byte more => exact .nil
  | rel less => exact utf8EncodeChar_lt less _ _
  | cons _ ih => exact List.append_left_lt ih

def bytesOf (text : String) : List UInt8 := text.toUTF8.data.toList

private theorem bytesOf_eq (text : String) : bytesOf text = text.toList.flatMap utf8EncodeChar := by
  have same : text.toUTF8 = (ofList text.toList).toByteArray := by rw [ofList_toList]; rfl
  rw [bytesOf, same, toByteArray_ofList, List.utf8Encode, List.toList_data_toByteArray]

private theorem bytesOf_lt {left right : String} (less : left < right) :
    bytesOf left < bytesOf right := by
  rw [bytesOf_eq, bytesOf_eq]
  exact flatMap_utf8EncodeChar_lt less

/-- The order of texts by their characters is the one by their bytes. -/
theorem bytesOf_le_iff {left right : String} : bytesOf left ≤ bytesOf right ↔ left ≤ right := by
  constructor
  · intro bytes greater
    exact bytes (bytesOf_lt greater)
  · intro ordered greater
    by_cases less : left < right
    · exact List.lt_asymm greater (bytesOf_lt less)
    · obtain rfl := String.le_antisymm ordered (String.not_lt.mp less)
      exact List.lt_irrefl _ greater

/-- An order in which the entries of a map can be enumerated: every entry has its place, and none
has two. -/
structure Enumerates (payload : Payload) (held : String → Option String) : Prop where
  distinct : (payload.map (·.1)).Nodup
  entries : ∀ key value, (key, value) ∈ payload ↔ held key = some value

def pairText (entry : String × String) : String := entry.1 ++ "=" ++ entry.2

/-- The texts of all entries of a map, one for each entry, in the order of their bytes. Entries
with different keys may have one text. -/
structure Ascending (held : String → Option String) (texts : List String) : Prop where
  all : ∃ payload, Enumerates payload held ∧ texts = payload.map pairText
  ascending : texts.Pairwise fun earlier later => bytesOf earlier ≤ bytesOf later

variable {payload other : Payload} {held : String → Option String} {texts : List String}

theorem Enumerates.nodup (enumerates : Enumerates payload held) : payload.Nodup :=
  enumerates.distinct.of_map (·.1)

theorem Enumerates.perm (enumerates : Enumerates payload held) (again : Enumerates other held) :
    payload.Perm other := by
  apply (List.perm_ext_iff_of_nodup enumerates.nodup again.nodup).mpr
  rintro ⟨key, value⟩
  rw [enumerates.entries, again.entries]

theorem Enumerates.of_perm (enumerates : Enumerates payload held) (turned : other.Perm payload) :
    Enumerates other held where
  distinct := (turned.map (·.1)).nodup_iff.mpr enumerates.distinct
  entries key value := by rw [turned.mem_iff, enumerates.entries]

theorem Enumerates.nil_iff (enumerates : Enumerates payload held) :
    payload = [] ↔ ∀ key, held key = none := by
  simp only [List.eq_nil_iff_forall_not_mem, Prod.forall, enumerates.entries,
    Option.eq_none_iff_forall_ne_some, ne_eq]

/-- A payload in which no key occurs twice enumerates what is found in it. -/
theorem enumerates_lookup (distinct : (payload.map (·.1)).Nodup) :
    Enumerates payload (payload.lookup ·) where
  distinct := distinct
  entries key value := by
    rw [List.lookup_eq_some_iff]
    constructor
    · intro member
      obtain ⟨before, after, rfl⟩ := List.append_of_mem member
      rw [List.map_append, List.map_cons, List.nodup_middle] at distinct
      have fresh := (List.nodup_cons.mp distinct).1
      refine ⟨before, after, rfl, fun entry earlier => ?_⟩
      rw [bne_iff_ne]
      intro same
      exact fresh (List.mem_append_left _ (List.mem_map.mpr ⟨entry, earlier, same.symm⟩))
    · rintro ⟨before, after, rfl, _⟩
      exact List.mem_append_right _ List.mem_cons_self

private theorem texts_perm (payload : Payload) : payload.texts.Perm (payload.map pairText) :=
  List.mergeSort_perm _ _

private theorem texts_ascending (payload : Payload) : payload.texts.Pairwise (· ≤ ·) := by
  have sorted : payload.texts.Pairwise fun earlier later => decide (earlier ≤ later) = true := by
    apply List.pairwise_mergeSort
    · intro first second third before after
      rw [decide_eq_true_eq] at before after ⊢
      exact String.le_trans before after
    · intro first second
      simpa using String.le_total first second
  exact sorted.imp of_decide_eq_true

/-- However the entries of a map are enumerated, sorting their texts leads to one list, and that
is the only one that is in order. -/
theorem Enumerates.ascending_iff (enumerates : Enumerates payload held) :
    Ascending held texts ↔ texts = payload.texts := by
  have unsorted := texts_perm payload
  have sorted := texts_ascending payload
  constructor
  · rintro ⟨⟨listed, again, rfl⟩, ascending⟩
    have ordered : (listed.map pairText).Pairwise (· ≤ ·) :=
      ascending.imp fun bytes => bytesOf_le_iff.mp bytes
    have same : (listed.map pairText).Perm payload.texts :=
      ((again.perm enumerates).map pairText).trans unsorted.symm
    exact same.eq_of_pairwise (fun _ _ _ _ => String.le_antisymm) ordered sorted
  · rintro rfl
    -- The entries can be put into the order that their texts have.
    obtain ⟨listed, same, turned⟩ :=
      (congrFun₂ (List.eq_map_comp_perm pairText) payload.texts payload).mpr unsorted
    exact ⟨⟨listed, enumerates.of_perm turned, same⟩,
      sorted.imp fun less => bytesOf_le_iff.mpr less⟩

private theorem texts_nil_iff : payload.texts = [] ↔ payload = [] := by
  rw [← List.length_eq_zero_iff, (texts_perm payload).length_eq, List.length_map,
    List.length_eq_zero_iff]

private theorem message_blank {error : Error} (blank : error.payload = []) :
    error.message = error.kind.title := by
  simp only [Error.message, Payload.message, texts_nil_iff.mpr blank]

private theorem message_filled {error : Error} (filled : error.payload ≠ []) :
    error.message =
      error.kind.title ++ ": " ++ String.intercalate ", " error.payload.texts := by
  rw [Error.message, Payload.message]
  split
  next blank => exact absurd (texts_nil_iff.mp blank) filled
  next => rfl

/-- What an error says depends on its kind and on what its payload holds for each key, and not on
the order in which the payload is enumerated. It is the kind alone if there are no entries;
otherwise the texts of all entries follow, each once, in ascending order. -/
theorem message_independent_of_listing {error other : Error} {held : String → Option String}
    (enumerates : Enumerates error.payload held) (again : Enumerates other.payload held)
    (alike : other.kind = error.kind) :
    other.message = error.message ∧
      ((∀ key, held key = none) → error.message = error.kind.title) ∧
      ((∃ key, held key ≠ none) → ∃ texts, Ascending held texts ∧
        (∀ listed, Ascending held listed → listed = texts) ∧
        error.message = error.kind.title ++ ": " ++ String.intercalate ", " texts) := by
  have same : other.payload.texts = error.payload.texts :=
    enumerates.ascending_iff.mp (again.ascending_iff.mpr rfl)
  refine ⟨?_, fun blank => ?_, fun ⟨key, found⟩ => ?_⟩
  · rw [Error.message, Error.message, Payload.message, Payload.message, same, alike]
  · exact message_blank (enumerates.nil_iff.mpr blank)
  · have filled : error.payload ≠ [] := fun blank => found (enumerates.nil_iff.mp blank key)
    exact ⟨_, enumerates.ascending_iff.mpr rfl, fun listed => enumerates.ascending_iff.mp,
      message_filled filled⟩

def alikeEntries : Payload := [("a", "b=c"), ("a!", "1"), ("a=b", "c")]

/-- The entry whose key is between the other two is shown before them, since its text is smaller.
Those two have one text, and both are shown. -/
theorem message_of_keys_that_begin_alike : ∃ held : String → Option String,
    alikeEntries.Pairwise (fun earlier later => earlier.1 < later.1) ∧
      Enumerates (Error.custom .process alikeEntries).payload held ∧
      Enumerates (Error.custom .process alikeEntries.reverse).payload held ∧
      Ascending held ["a!=1", "a=b=c", "a=b=c"] ∧
      (Error.custom .process alikeEntries).message = "Process: a!=1, a=b=c, a=b=c" ∧
      (Error.custom .process alikeEntries.reverse).message = "Process: a!=1, a=b=c, a=b=c" := by
  have enumerates : Enumerates (Error.custom .process alikeEntries).payload
      (alikeEntries.lookup ·) := enumerates_lookup (by decide)
  have turned : Enumerates (Error.custom .process alikeEntries.reverse).payload
      (alikeEntries.lookup ·) := enumerates.of_perm alikeEntries.reverse_perm
  have listed : Enumerates [("a!", "1"), ("a", "b=c"), ("a=b", "c")] (alikeEntries.lookup ·) :=
    enumerates.of_perm (by decide)
  have ascending : Ascending (alikeEntries.lookup ·) ["a!=1", "a=b=c", "a=b=c"] :=
    ⟨⟨_, listed, by decide⟩, by decide +kernel⟩
  obtain ⟨same, _, shown⟩ := message_independent_of_listing enumerates turned rfl
  obtain ⟨texts, _, only, told⟩ := shown ⟨"a", by decide⟩
  rw [← only _ ascending] at told
  have message := told.trans (by decide : _ = "Process: a!=1, a=b=c, a=b=c")
  exact ⟨_, by decide, enumerates, turned, ascending, message, same.trans message⟩

end BotKeeper.Proofs
