import Chronicle.Event.Log
import Chronicle.Proofs.Octets.Utf8
import Chronicle.Proofs.Text.Lines
import Mathlib.Data.List.TakeWhile
import Mathlib.Data.Nat.Digits.Defs

/-!
# Reading event logs

What a line holds, and what reading it fails with, is said of the line alone: `Holds` and `Fails`.
A log yields the events of its lines up to the first one that fails, and that line is reported by
its number among all lines: `EventLog.read_lines`. Reading on where another log has ended gives the
same events and the same error, but for that number.
-/
namespace Chronicle

/-- The digits of a number are its usual decimal digits. -/
private theorem Decimal.ofList_digits (n : Nat) : String.ofList (digits n) = toString n := by
  have hdigit : ∀ d < 10, digitChar d = d.digitChar := by decide
  have hdigits : digits n = Nat.toDigits 10 n := by
    induction n using digits.induct with
    | case1 n h => rw [digits, if_pos h, Nat.toDigits_of_lt_base h, hdigit n h]
    | case2 n h ih =>
      rw [digits, if_neg h, ih, Nat.toDigits_eq_if (n := n) (by decide), if_neg h]
      rw [hdigit _ (Nat.mod_lt _ (by decide))]
  rw [hdigits]
  rfl

/-- Nothing is left of a text in which there is nothing but what is trimmed. -/
private theorem Text.trim_eq_nil_iff {p : Char → Bool} {cs : List Char} :
    Text.trim p cs = [] ↔ ∀ c ∈ cs, p c = true := by
  rw [Text.trim, List.reverse_eq_nil_iff, List.dropWhile_eq_nil_iff]
  refine ⟨fun h => ?_, fun h c hc => h c ?_⟩
  · -- if anything were left, it would begin with a character that is not trimmed
    rw [← List.dropWhile_eq_nil_iff]
    by_contra hne
    have hhead := List.head_dropWhile_not p hne
    rw [h _ (List.mem_reverse.2 (List.head_mem hne))] at hhead
    cases hhead
  · exact (List.dropWhile_suffix p).subset (List.mem_reverse.1 hc)

namespace EventLogError

/-- The number of the line that an error reports, if it says that this line is wrong. -/
def line? : EventLogError → Option Nat
  | .notJson _ line | .rejected _ line _ => some line
  | .longInteger _ | .untried _ | .notText _ => none

/-- The error of a line that stands `k` lines further on. -/
def later (k : Nat) : EventLogError → EventLogError
  | .notJson path line => .notJson path (line + k)
  | .rejected path line e => .rejected path (line + k) e
  | e => e

end EventLogError

namespace EventLog

/-! ### Lines -/

/-- A line of blank characters, or of none. -/
def Blank (line : List Char) : Prop :=
  ∀ c ∈ line, Text.isBlank c = true

/-- The record on a line that is not blank is an event. -/
structure Holds (line : List Char) (e : Event) : Prop where
  notBlank : ¬Blank line
  record : ∃ v, Json.parse (Text.trim Text.isBlank line) = .ok v ∧ Event.ofJson v = .ok e

/-- What goes wrong with a line that has a number. -/
inductive Fails (path : Path) (number : Nat) (line : List Char) : EventLogError → Prop
  | notJson (hblank : ¬Blank line)
    (hparse : Json.parse (Text.trim Text.isBlank line) = .error .malformed) :
    Fails path number line (.notJson path number)
  | longInteger (hblank : ¬Blank line) {digits : Nat}
    (hparse : Json.parse (Text.trim Text.isBlank line) = .error (.longInteger digits)) :
    Fails path number line (.longInteger digits)
  | rejected (hblank : ¬Blank line) {v : Json} {e : EventError}
    (hparse : Json.parse (Text.trim Text.isBlank line) = .ok v) (hevent : Event.ofJson v = .error e)
    (he : e.isRejection = true) : Fails path number line (.rejected path number e)
  | untried (hblank : ¬Blank line) {v : Json} {e : EventError}
    (hparse : Json.parse (Text.trim Text.isBlank line) = .ok v) (hevent : Event.ofJson v = .error e)
    (he : e.isRejection = false) : Fails path number line (.untried e)

/-- Lines of which none fails, and the events that they hold. -/
inductive Yields : List (List Char) → List Event → Prop
  | nil : Yields [] []
  | blank {line : List Char} {rest : List (List Char)} {events : List Event} (hline : Blank line)
    (hrest : Yields rest events) : Yields (line :: rest) events
  | event {line : List Char} {rest : List (List Char)} {e : Event} {events : List Event}
    (hline : Holds line e) (hrest : Yields rest events) : Yields (line :: rest) (e :: events)

private theorem readLine_cases (path : Path) (number : Nat) (line : List Char) :
    (Blank line ∧ readLine path number line = .ok none)
      ∨ (∃ e, Holds line e ∧ readLine path number line = .ok (some e))
      ∨ ∃ e, Fails path number line e ∧ readLine path number line = .error e := by
  -- a blank line is passed over before anything is read
  by_cases hblank : Blank line
  · left
    simp [readLine, Text.trim_eq_nil_iff.2 hblank, hblank]
  have htext : (Text.trim Text.isBlank line).isEmpty = false := by
    rw [List.isEmpty_eq_false_iff]
    exact fun h => hblank (Text.trim_eq_nil_iff.1 h)
  right
  unfold readLine
  cases hparse : Json.parse (Text.trim Text.isBlank line) with
  | error f =>
    right
    cases f with
    | malformed => exact ⟨_, .notJson hblank hparse, by simp [htext, hparse]⟩
    | longInteger digits => exact ⟨_, .longInteger hblank hparse, by simp [htext, hparse]⟩
  | ok v =>
    cases hevent : Event.ofJson v with
    | ok e => exact .inl ⟨e, ⟨hblank, v, hparse, hevent⟩, by simp [htext, hparse, hevent]⟩
    | error e =>
      right
      -- an event can be rejected, or its reading can fail in another way
      cases he : e.isRejection with
      | true => exact ⟨_, .rejected hblank hparse hevent he, by simp [htext, hparse, hevent, he]⟩
      | false => exact ⟨_, .untried hblank hparse hevent he, by simp [htext, hparse, hevent, he]⟩

/-- Where a line stands matters only to what is said of it. -/
private theorem readLine_later (path : Path) (number k : Nat) (line : List Char) :
    readLine path (number + k) line = (readLine path number line).mapError (·.later k) := by
  simp only [readLine]
  split
  · rfl
  -- the number of the line is only in what is said about a failure
  cases Json.parse (Text.trim Text.isBlank line) with
  | error f => cases f <;> rfl
  | ok v =>
    cases hevent : Event.ofJson v with
    | ok e => simp only [hevent]; rfl
    | error e =>
      simp only [hevent]
      split <;> rfl

/-- An error that says what is wrong with a line begins with the place of that line. -/
theorem Fails.message {path : Path} {number : Nat} {line : List Char} {e : EventLogError}
    (h : Fails path number line e) {n : Nat} (hn : e.line? = some n) :
    n = number ∧ ∃ rest, e.message = path.text ++ ":" ++ toString number ++ ":" ++ rest := by
  -- the number stands between colons after the path
  have hplace : EventLogError.place path number
      = path.text ++ ":" ++ toString number ++ ":" ++ " " := by
    have hends : (": " : String) = ":" ++ " " := rfl
    rw [EventLogError.place, Decimal.ofList_digits, hends, ← String.append_assoc]
  cases h with
  | notJson =>
    refine ⟨(Option.some.inj hn).symm, " " ++ "not valid JSON", ?_⟩
    rw [EventLogError.message, hplace, String.append_assoc]
  | rejected hblank hparse hevent he =>
    rename_i v e
    refine ⟨(Option.some.inj hn).symm, " " ++ e.message, ?_⟩
    rw [EventLogError.message, hplace, String.append_assoc]
  | longInteger => cases hn
  | untried => cases hn

/-! ### Lines one after another -/

/-- All lines are read, or those before the first one that fails. -/
private theorem readLines_cases (path : Path) (number : Nat) (lines : List (List Char)) :
    (∃ events, Yields lines events ∧ readLines path number lines = (events, none))
      ∨ ∃ before line after events e, lines = before ++ line :: after ∧ Yields before events
        ∧ Fails path (number + before.length) line e
        ∧ readLines path number lines = (events, some e) := by
  induction lines generalizing number with
  | nil => exact .inl ⟨[], .nil, rfl⟩
  | cons line rest ih =>
    -- the numbers of the lines go on by one
    have hnumber : ∀ before : List (List Char),
        number + 1 + before.length = number + (line :: before).length := fun before => by
      rw [List.length_cons]
      omega
    -- a blank line, an event, or a failure at this line
    rcases readLine_cases path number line
      with ⟨hline, hread⟩ | ⟨e, hline, hread⟩ | ⟨e, hline, hread⟩
    · rcases ih (number + 1) with ⟨events, hyields, hrest⟩
          | ⟨before, bad, after, events, f, rfl, hyields, hfails, hrest⟩
      · exact .inl ⟨events, .blank hline hyields, by simp [readLines, hread, hrest]⟩
      · exact .inr ⟨line :: before, bad, after, events, f, rfl, .blank hline hyields,
          hnumber before ▸ hfails, by simp [readLines, hread, hrest]⟩
    · rcases ih (number + 1) with ⟨events, hyields, hrest⟩
          | ⟨before, bad, after, events, f, rfl, hyields, hfails, hrest⟩
      · exact .inl ⟨e :: events, .event hline hyields, by simp [readLines, hread, hrest]⟩
      · exact .inr ⟨line :: before, bad, after, e :: events, f, rfl, .event hline hyields,
          hnumber before ▸ hfails, by simp [readLines, hread, hrest]⟩
    · exact .inr ⟨[], line, rest, [], e, rfl, .nil, hline, by simp [readLines, hread]⟩

private theorem readLines_later (path : Path) (number k : Nat) (lines : List (List Char)) :
    readLines path (number + k) lines
      = ((readLines path number lines).1, (readLines path number lines).2.map (·.later k)) := by
  induction lines generalizing number with
  | nil => rfl
  | cons line rest ih =>
    have hnext := ih (number + 1)
    rw [show number + 1 + k = number + k + 1 by omega] at hnext
    simp only [readLines, readLine_later, hnext]
    cases readLine path number line <;> rfl

/-- Lines that are all read do not keep the lines after them from being read. -/
private theorem readLines_append {path : Path} {number : Nat} {lines : List (List Char)}
    {events : List Event} (h : readLines path number lines = (events, none))
    (more : List (List Char)) :
    readLines path number (lines ++ more)
      = (events ++ (readLines path (number + lines.length) more).1,
        (readLines path (number + lines.length) more).2) := by
  induction lines generalizing number events with
  | nil =>
    cases h
    rfl
  | cons line rest ih =>
    rw [readLines] at h
    rw [List.cons_append, readLines, List.length_cons,
      show number + (rest.length + 1) = number + 1 + rest.length by omega]
    -- a line that fails would end the reading, and the lines have been read to their end
    cases hread : readLine path number line with
    | error e =>
      rw [hread] at h
      cases h
    | ok found =>
      rw [hread] at h
      obtain ⟨hevents, hnone⟩ := Prod.mk.inj h
      have hrest : readLines path (number + 1) rest
          = ((readLines path (number + 1) rest).1, none) := Prod.ext rfl hnone
      simp only [ih hrest, ← hevents, List.append_assoc]

/-! ### Logs -/

private theorem read_encode (path : Path) (text : List Char) :
    read path (Utf8.encode text) = readLines path 1 (Text.lines text) := by
  rw [read, delivered, Utf8.decode_encode]
  simp

/-! ### Events handed on while a log is read -/

section Feeding

variable {α : Type} {path : Path} {take : α → Event → α} {a : α} {events : List Event}

/-- What lines that are all read come to does not depend on whether the events are handed on one by
one or all together in the end. -/
private theorem feedLines_of_readLines {number : Nat} {lines : List (List Char)}
    (h : readLines path number lines = (events, none)) :
    feedLines path take number a lines = .ok (events.foldl take a) := by
  induction lines generalizing number a events with
  | nil => cases h; rfl
  | cons line rest ih =>
    rw [readLines] at h
    rw [feedLines]
    cases hread : readLine path number line with
    | error e => rw [hread] at h; cases h
    | ok found =>
      rw [hread] at h
      obtain ⟨rfl, hnone⟩ := Prod.mk.inj h
      have hrest := ih (a := found.toList.foldl take a)
        (Prod.ext rfl hnone : readLines path (number + 1) rest = (_, none))
      -- a blank line has no event to take
      cases found <;> simpa using hrest

private theorem feedLines_of_error {number : Nat} {lines : List (List Char)} {e : EventLogError}
    (h : readLines path number lines = (events, some e)) :
    feedLines path take number a lines = .error e := by
  induction lines generalizing number a events with
  | nil => cases h
  | cons line rest ih =>
    rw [readLines] at h
    rw [feedLines]
    cases hread : readLine path number line with
    | error e' => rw [hread] at h; cases h; rfl
    | ok found =>
      rw [hread] at h
      obtain ⟨-, hsome⟩ := Prod.mk.inj h
      have hrest : readLines path (number + 1) rest = (_, some e) := Prod.ext rfl hsome
      -- the failure is further on, whatever has been taken by then
      cases found with
      | none => exact ih hrest
      | some event => exact ih hrest

/-- Handing on the events of a log one by one, while it is read, comes to the same as reading it
first: here for a log that is read to its end. -/
theorem feed_of_read {content : Bytes} (h : read path content = (events, none)) :
    feed path take a content = .ok (events.foldl take a) := by
  rcases hlines : delivered content with ⟨lines, fault⟩
  rcases hread : readLines path 1 lines with ⟨found, e⟩
  simp only [read, hlines, hread] at h
  obtain ⟨rfl, hnone⟩ := Prod.mk.inj h
  obtain ⟨rfl, hfault⟩ := (Option.orElse_eq_none _ _).1 hnone
  cases Option.map_eq_none_iff.1 hfault
  simp only [feed, hlines, feedLines_of_readLines hread]

/-- A log that cannot be read to its end fails with the same error when its events are handed on
while it is read. -/
theorem feed_of_read_error {content : Bytes} {e : EventLogError}
    (h : read path content = (events, some e)) : feed path take a content = .error e := by
  rcases hlines : delivered content with ⟨lines, fault⟩
  rcases hread : readLines path 1 lines with ⟨found, f⟩
  simp only [read, hlines, hread] at h
  obtain ⟨-, hsome⟩ := Prod.mk.inj h
  cases f with
  | some f =>
    cases hsome
    simp only [feed, hlines, feedLines_of_error hread]
  | none =>
    -- all delivered lines are read, so it is the octets after them that are no text
    obtain ⟨fault, rfl, rfl⟩ := Option.map_eq_some_iff.1 hsome
    simp only [feed, hlines, feedLines_of_readLines hread]

end Feeding

/-! ### What a log yields -/

/-- An event log yields the events of its physical lines in order, blank lines apart, up to the
first line that fails. An error that says what is wrong with that line begins with the path and the
number of the line among all lines. A log that ends with a line feed and has been read to its end
can be followed by any text: the events of that text come next, and its error but for the number of
the line, which grows by the number of lines before it.

What a line holds is what `Json.parse` makes of it. There an integer of more than
`Decimal.maxDigits` digits ends the reading, and a surrogate on its own that an escape names is read
as U+FFFD. -/
theorem read_lines (path : Path) (text : List Char) :
    Text.HasLines text (Text.lines text)
      ∧ ((∃ events, Yields (Text.lines text) events
            ∧ read path (Utf8.encode text) = (events, none))
          ∨ ∃ before line after events e, Text.lines text = before ++ line :: after
            ∧ Yields before events ∧ Fails path (before.length + 1) line e
            ∧ read path (Utf8.encode text) = (events, some e)
            ∧ ∀ n, e.line? = some n → n = before.length + 1
              ∧ ∃ rest, e.message
                = path.text ++ ":" ++ toString (before.length + 1) ++ ":" ++ rest)
      ∧ ∀ events, text.getLast? = some '\n' → read path (Utf8.encode text) = (events, none) →
        ∀ more, read path (Utf8.encode (text ++ more))
          = (events ++ (read path (Utf8.encode more)).1,
            (read path (Utf8.encode more)).2.map (·.later (Text.lines text).length)) := by
  simp only [read_encode]
  refine ⟨Text.hasLines_lines text, ?_, fun events hlast hread more => ?_⟩
  · rcases readLines_cases path 1 (Text.lines text) with hall
        | ⟨before, line, after, events, e, hlines, hyields, hfails, hread⟩
    · exact .inl hall
    · rw [Nat.add_comm] at hfails
      exact .inr ⟨before, line, after, events, e, hlines, hyields, hfails, hread,
        fun n hn => hfails.message hn⟩
  · rw [Text.lines_append hlast, readLines_append hread, readLines_later]

/-- A log of two events with a blank line between them, and a text with a broken line after it. -/
def splitLog : List Char × List Char :=
  ("\x7b\"type\": \"suite_end\"\x7d\r\n \r\x7b\"type\": \"suite_end\"\x7d\n".toList, "\r\nx".toList)

/-- The broken line is the second one of its text and the fifth one after the log. -/
theorem read_lines_of_split_log :
    splitLog.1.getLast? = some '\n'
      ∧ read {} (Utf8.encode splitLog.1) = ([⟨none, .suiteEnd⟩, ⟨none, .suiteEnd⟩], none)
      ∧ read {} (Utf8.encode splitLog.2) = ([], some (.notJson {} 2))
      ∧ read {} (Utf8.encode (splitLog.1 ++ splitLog.2))
        = ([⟨none, .suiteEnd⟩, ⟨none, .suiteEnd⟩], some (.notJson {} 5)) := by
  have hlast : splitLog.1.getLast? = some '\n' := by decide
  have hfirst : read {} (Utf8.encode splitLog.1)
      = ([⟨none, .suiteEnd⟩, ⟨none, .suiteEnd⟩], none) := by
    decide +kernel
  have hsecond : read {} (Utf8.encode splitLog.2) = ([], some (.notJson {} 2)) := by
    decide +kernel
  have hboth := (read_lines {} splitLog.1).2.2 _ hlast hfirst splitLog.2
  rw [hsecond] at hboth
  exact ⟨hlast, hfirst, hsecond, hboth⟩

/-- A no-break space before a record does not belong to it, although no JSON text may begin with
one. -/
theorem read_of_padded_record :
    ∃ line, Text.HasLines line [line] ∧ ¬Blank line ∧ Json.parse line = .error .malformed
      ∧ read {} (Utf8.encode line) = ([⟨none, .suiteEnd⟩], none) := by
  let line : List Char := "\u00a0\x7b\"type\": \"suite_end\"\x7d".toList
  have hmalformed : (Json.parse line).map (fun _ => ()) = .error .malformed := by
    decide +kernel
  refine ⟨line, .last (by decide) ⟨by decide, by decide⟩, ?_, ?_, by decide +kernel⟩
  · intro hblank
    exact absurd (hblank 'y' (by decide)) (by decide)
  · cases hparse : Json.parse line with
    | ok v => rw [hparse] at hmalformed; cases hmalformed
    | error f => rw [hparse] at hmalformed; cases hmalformed; rfl

end EventLog

end Chronicle
