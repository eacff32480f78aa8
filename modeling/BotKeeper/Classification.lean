import BotKeeper.Lifecycle
import BotKeeper.Marker
import BotKeeper.Text.Ansi
import BotKeeper.Text.Numeral

/-! Every output line means at most one lifecycle event. The four families of
markers are tried in a fixed order, and the first that occurs decides. -/

namespace BotKeeper

namespace Classification
open Text

/-- The text that the markers are looked for in: without escape sequences and
without the line's end. -/
def visible (line : List Char) : List Char :=
  trimLineEnd (Ansi.strip line)

/-- The message after the marker, or the whole line where there is none. -/
def quickLoginText (line message : List Char) : List Char :=
  match trim message with
  | [] => trim line
  | text => text

/-- The event of a line that holds neither escape sequences nor a line end. -/
def ofVisible? (line : List Char) : Option LifecycleEvent :=
  match Marker.qrPayload? line with
  | some payload => some (.qrChallenge (.ofList payload))
  | none =>
    match Marker.quickLoginMessage? line with
    | some message => some (.quickLoginError (.ofList (quickLoginText line message)))
    | none =>
      match Marker.loginDigits? line with
      | some digits => some (.loginSuccess (.ofNat (numeral digits)))
      | none => if Marker.saysOffline line then some .accountOffline else none

end Classification

def classify (line : String) : Option LifecycleEvent :=
  Classification.ofVisible? (Classification.visible line.toList)

/-- Whatever a line means is what one of the families finds in its visible text. -/
theorem classify_cases {output : String} {event : LifecycleEvent} (means : classify output = some event) :
    let line := Classification.visible output.toList
    (∃ code, Marker.qrPayload? line = some code ∧ event = .qrChallenge (.ofList code)) ∨
    (∃ message, Marker.quickLoginMessage? line = some message ∧
      event = .quickLoginError (.ofList (Classification.quickLoginText line message))) ∨
    (∃ digits, Marker.loginDigits? line = some digits ∧
      event = .loginSuccess (.ofNat (Text.numeral digits))) ∨
    event = .accountOffline := by
  simp only [classify, Classification.ofVisible?] at means
  split at means
  · rename_i code found
    cases means
    exact .inl ⟨code, found, rfl⟩
  · split at means
    · rename_i message found
      cases means
      exact .inr (.inl ⟨message, found, rfl⟩)
    · split at means
      · rename_i digits found
        cases means
        exact .inr (.inr (.inl ⟨digits, found, rfl⟩))
      · split at means
        · cases means
          exact .inr (.inr (.inr rfl))
        · cases means

def stripAnsi (line : String) : String :=
  .ofList (Ansi.strip line.toList)

end BotKeeper
