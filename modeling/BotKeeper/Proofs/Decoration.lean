import BotKeeper.Proofs.Escapes

/-! Text that is decorated for a terminal. Whole escape sequences stand anywhere in it, next to
each other and within words. The removal goes through a text once from left to right, and it takes
up each sequence to its own end, whatever follows. Main statement: what is left of a decorated text
is the text itself if that has no escape characters, and both mean the same. -/

namespace BotKeeper.Proofs
open Ansi

/-- The second text is the first with whole sequences put in, any number of them and anywhere. -/
inductive Decorated : List Char → List Char → Prop where
  | nil : Decorated [] []
  | kept {text shown : List Char} (c : Char) (rest : Decorated text shown) :
      Decorated (c :: text) (c :: shown)
  | inserted {sequence text shown : List Char} (whole : IsSequence sequence)
      (rest : Decorated text shown) : Decorated text (sequence ++ shown)

variable {text shown rest : List Char}

/-- What has been removed from a text are sequences. -/
theorem decorated_strip (text : List Char) : Decorated (strip text) text := by
  induction text using strip.induct with
  | case1 =>
    rw [strip]
    exact .nil
  | case2 first inner after found ih =>
    obtain ⟨sequence, whole, parted⟩ := afterSequence?_eq_some.mp found
    rw [strip_sequence found, parted]
    exact .inserted whole ih
  | case3 first inner none ih =>
    rw [strip_kept none]
    exact .kept first ih

private theorem strip_decorated (plain : escape ∉ text) (decorated : Decorated text shown) :
    strip shown = text := by
  induction decorated with
  | nil => rw [strip]
  | kept c _ ih =>
    have other : c ≠ escape := fun same => plain (same ▸ List.mem_cons_self)
    rw [strip_kept (afterSequence?_plain other _), ih fun later => plain (List.mem_cons_of_mem _ later)]
  | inserted whole _ ih => rw [strip_sequence (afterSequence?_eq_some.mpr ⟨_, whole, rfl⟩), ih plain]

theorem Decorated.refl (text : List Char) : Decorated text text := by
  induction text with
  | nil => exact .nil
  | cons c rest ih => exact .kept c ih

theorem strip_eq_iff (plain : escape ∉ text) : strip shown = text ↔ Decorated text shown := by
  constructor
  · rintro rfl
    exact decorated_strip shown
  · exact strip_decorated plain

/-- Exactly the decorations of a text without escape characters become that text, and each of them
means what it means. -/
theorem decoration_is_invisible {text : String} (plain : '\x1b' ∉ text.toList) (shown : String) :
    (stripAnsi shown = text ↔ Decorated text.toList shown.toList) ∧
      (Decorated text.toList shown.toList → classify shown = classify text) := by
  have itself : strip text.toList = text.toList := (strip_eq_iff plain).mpr (.refl _)
  constructor
  · rw [← strip_eq_iff plain, stripAnsi, ← String.toList_inj, String.toList_ofList]
  · intro decorated
    rw [classify, classify, Classification.visible, Classification.visible,
      (strip_eq_iff plain).mpr decorated, itself]

/-- Two sequences stand within the marker, and the text behind another one could continue it. -/
theorem decoration_of_marker_is_invisible :
    Decorated "QR:31m".toList "Q\x1b[1;31m\x1bMR:\x1b[0 m31m".toList ∧
      stripAnsi "Q\x1b[1;31m\x1bMR:\x1b[0 m31m" = "QR:31m" ∧
      classify "Q\x1b[1;31m\x1bMR:\x1b[0 m31m" = classify "QR:31m" := by
  have colour : IsSequence ('\x1b' :: '[' :: ("1;31".toList ++ [] ++ ['m'])) :=
    .long (by simp) (by simp) (by decide)
  have upwards : IsSequence ['\x1b', 'M'] := .short (by decide)
  have reset : IsSequence ('\x1b' :: '[' :: (['0'] ++ [' '] ++ ['m'])) :=
    .long (by simp) (by simp) (by decide)
  have decorated : Decorated "QR:31m".toList "Q\x1b[1;31m\x1bMR:\x1b[0 m31m".toList :=
    .kept 'Q' (.inserted colour (.inserted upwards (.kept 'R' (.kept ':' (.inserted reset
      (.refl "31m".toList))))))
  obtain ⟨removed, meaning⟩ := decoration_is_invisible (by simp : '\x1b' ∉ "QR:31m".toList)
    "Q\x1b[1;31m\x1bMR:\x1b[0 m31m"
  exact ⟨decorated, removed.mpr decorated, meaning decorated⟩

end BotKeeper.Proofs
