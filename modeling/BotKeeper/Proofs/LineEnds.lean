import BotKeeper.Proofs.Decoration

/-! The end of a line. It is cut off twice, by the reader before the escape sequences are removed
and by the classification after that, and a line may break off in the middle of a sequence. Main
statement: a sequence that has begun does not take up the end of the line, so the end stays behind
what the line is without its sequences, and what a line means does not depend on it. -/

namespace BotKeeper.Proofs
open Text Ansi

/-- An escape sequence that has begun and lacks something at its end. -/
def Unfinished (text : List Char) : Prop :=
  text ≠ [] ∧ ∃ missing, missing ≠ [] ∧ IsSequence (text ++ missing)

variable {text sequence : List Char}

/-- A sequence has no escape character but the one that begins it. -/
theorem IsSequence.begins (whole : IsSequence sequence) :
    ∃ inner, sequence = escape :: inner ∧ escape ∉ inner := by
  cases whole with
  | short range =>
    refine ⟨_, rfl, ?_⟩
    rw [List.mem_singleton]
    rintro rfl
    exact absurd range (by decide)
  | long parameter intermediate last =>
    refine ⟨_, rfl, ?_⟩
    simp only [List.mem_cons, List.mem_append, List.not_mem_nil, or_false, not_or]
    refine ⟨by decide, ⟨?_, ?_⟩, ?_⟩
    · exact fun member => absurd (parameter _ member) (by decide)
    · exact fun member => absurd (intermediate _ member) (by decide)
    · rintro rfl
      exact absurd last (by decide)

theorem Unfinished.parts (unfinished : Unfinished text) :
    ∃ inner, text = escape :: inner ∧ escape ∉ inner ∧ afterSequence? text = none := by
  obtain ⟨present, missing, lacks, whole⟩ := unfinished
  obtain ⟨first, inner, rfl⟩ := List.exists_cons_of_ne_nil present
  obtain ⟨rest, same, plain⟩ := whole.begins
  obtain ⟨rfl, rfl⟩ := List.cons.inj same
  refine ⟨inner, rfl, fun member => plain (List.mem_append_left _ member), ?_⟩
  cases found : afterSequence? (escape :: inner) with
  | none => rfl
  | some after =>
    -- Something would be left behind the sequence that is already there.
    obtain ⟨shorter, begun, parted⟩ := afterSequence?_eq_some.mp found
    have early : afterSequence? (escape :: inner ++ missing) = some (after ++ missing) :=
      afterSequence?_eq_some.mpr ⟨shorter, begun, by rw [parted, List.append_assoc]⟩
    have late : afterSequence? (escape :: inner ++ missing) = some [] :=
      afterSequence?_eq_some.mpr ⟨_, whole, (List.append_nil _).symm⟩
    rw [early, Option.some.injEq, List.append_eq_nil_iff] at late
    exact absurd late.2 lacks

/-- What has begun and is not finished stays. -/
theorem strip_unfinished (unfinished : Unfinished text) (before : List Char) :
    strip (before ++ text) = strip before ++ text := by
  obtain ⟨inner, rfl, plain, none⟩ := unfinished.parts
  rw [strip_append (by decide), strip_kept none, (strip_eq_iff plain).mpr (.refl inner)]

section ends

variable {ends : String} (ended : ∀ c ∈ ends.toList, isLineEnd c = true)
include ended

theorem stripAnsi_ended (line : String) : stripAnsi (line ++ ends) = stripAnsi line ++ ends := by
  simp only [stripAnsi, String.toList_append, strip_lineEnds _ ended, String.ofList_append,
    String.ofList_toList]

theorem classify_ended (line : String) : classify (line ++ ends) = classify line := by
  simp only [classify, Classification.visible, String.toList_append, strip_lineEnds _ ended,
    trimLineEnd_append _ ended]

end ends

/-- Without its end, a line is published as something that has the same meaning as all of it. -/
theorem classify_lineText {bytes : List UInt8} {line : String}
    (decoded : Utf8.decodeLossy bytes = line.toList) :
    classify (Bot.lineText bytes) = classify (stripAnsi line) := by
  obtain ⟨rest, ended, left⟩ := strip_line line.toList
  have whole : stripAnsi line = Bot.lineText bytes ++ .ofList rest := by
    rw [stripAnsi, left, Bot.lineText, decoded, String.ofList_append]
  rw [whole, classify_ended (by simpa using ended)]

/-- Characters that end a line stay where they are when the sequences before them go, also if the
last sequence is unfinished, and mean nothing. So the text that the reader makes of a line means
what it would mean if the line had not ended. -/
theorem line_ends_mean_nothing {ends : String} (ended : ∀ c ∈ ends.toList, c = '\r' ∨ c = '\n')
    (line : String) :
    stripAnsi (line ++ ends) = stripAnsi line ++ ends ∧
      classify (line ++ ends) = classify line ∧
      (∀ begun : String, Unfinished begun.toList →
        stripAnsi (line ++ begun ++ ends) = stripAnsi line ++ begun ++ ends) ∧
      ∀ bytes, Utf8.decodeLossy bytes = (line ++ ends).toList →
        classify (Bot.lineText bytes) = classify (stripAnsi line) := by
  have ending : ∀ c ∈ ends.toList, isLineEnd c = true := fun c member => by
    simpa [isLineEnd] using ended c member
  refine ⟨stripAnsi_ended ending line, classify_ended ending line, fun begun unfinished => ?_,
    fun bytes decoded => ?_⟩
  · rw [stripAnsi_ended ending, stripAnsi, String.toList_append, strip_unfinished unfinished,
      String.ofList_append, String.ofList_toList]
    rfl
  · rw [classify_lineText decoded, stripAnsi_ended ending, classify_ended ending]

/-- The line breaks off within a sequence behind the account that has logged in. -/
theorem line_ends_of_unfinished_line_mean_nothing :
    Unfinished "\x1b[3".toList ∧
      stripAnsi "\x1b[32mlogin success 100001\x1b[3\r\n\n" = "login success 100001\x1b[3\r\n\n" ∧
      classify "\x1b[32mlogin success 100001\x1b[3\r\n\n" = some (.loginSuccess 100001) := by
  have colour : IsSequence ('\x1b' :: '[' :: (['3'] ++ [] ++ ['m'])) :=
    .long (by simp) (by simp) (by decide)
  have unfinished : Unfinished "\x1b[3".toList := ⟨by simp, ['m'], by simp, colour⟩
  have ended : ∀ c ∈ "\r\n\n".toList, c = '\r' ∨ c = '\n' := by simp
  obtain ⟨_, _, kept, _⟩ := line_ends_mean_nothing ended "\x1b[32mlogin success 100001"
  obtain ⟨_, same, _⟩ := line_ends_mean_nothing ended "\x1b[32mlogin success 100001\x1b[3"
  refine ⟨unfinished, ?_, ?_⟩
  · exact (kept "\x1b[3" unfinished).trans (by decide +kernel)
  · exact same.trans (by decide +kernel)

end BotKeeper.Proofs
