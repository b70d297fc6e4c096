import Chronicle.Proofs.Json.Words
import Chronicle.Proofs.Text.Lines

/-!
# No control characters in a printed value

Inside strings control characters are escaped, and nothing else that a value is printed with is one:
`Json.noControls_print`. So a printed value stands on one line.
-/
namespace Chronicle

namespace Text

/-- There are no control characters among these. -/
def NoControls (cs : List Char) : Prop :=
  ∀ c ∈ cs, 0x20 ≤ c.toNat

instance (cs : List Char) : Decidable (NoControls cs) :=
  List.decidableBAll (fun c : Char => 0x20 ≤ c.toNat) cs

/-- Two texts have no control characters if neither does. -/
private theorem noControls_append {cs ds : List Char} :
    NoControls (cs ++ ds) ↔ NoControls cs ∧ NoControls ds :=
  List.forall_mem_append

/-- A text has none if neither the first character is one nor the rest has any. -/
private theorem noControls_cons {c : Char} {cs : List Char} :
    NoControls (c :: cs) ↔ 0x20 ≤ c.toNat ∧ NoControls cs :=
  List.forall_mem_cons

/-- An empty text has none. -/
private theorem noControls_nil : NoControls [] := nofun

/-- A hexadecimal digit is none. -/
private theorem le_toNat_hexDigit : ∀ d < 16, 0x20 ≤ (hexDigit d).toNat := by
  decide

/-- Hexadecimal digits have none. -/
private theorem noControls_hexDigits (width n : Nat) : NoControls (hexDigits width n) := by
  induction width generalizing n with
  | zero => exact noControls_nil
  | succ width ih =>
    rw [hexDigits, noControls_append, noControls_cons]
    exact ⟨ih _, le_toNat_hexDigit _ (Nat.mod_lt _ (by omega)), noControls_nil⟩

/-- Line feeds and carriage returns are control characters. -/
theorem NoControls.unbroken {cs : List Char} (h : NoControls cs) : Unbroken cs :=
  ⟨fun hmem => absurd (h _ hmem) (by decide), fun hmem => absurd (h _ hmem) (by decide)⟩

end Text

open Text

/-- Decimal digits have none. -/
private theorem Decimal.noControls_digits (n : Nat) : NoControls (digits n) := by
  intro c hc
  have hdigit := isDigit_of_mem_digits hc
  -- the digits have the numbers from 48 on
  simp only [Char.isDigit, Bool.and_eq_true, decide_eq_true_eq] at hdigit
  have hzero : (48 : UInt32) ≤ c.val := hdigit.1
  have hnum : 48 ≤ c.toNat := UInt32.le_iff_toNat_le.1 hzero
  omega

/-- Nor has an integer. -/
private theorem Decimal.noControls_ofInt (i : Int) : NoControls (ofInt i) := by
  cases i with
  | ofNat n => exact noControls_digits n
  | negSucc n => exact noControls_cons.2 ⟨by decide, noControls_digits _⟩

namespace Json

/-- A character is escaped if it is a control character. -/
private theorem noControls_printChar (c : Char) : NoControls (printChar c) := by
  rcases printChar_cases c with ⟨e, he, hprint⟩ | ⟨-, hprint⟩ | ⟨⟨-, -, hcontrol⟩, hprint⟩
  · rw [hprint, noControls_cons, noControls_cons]
    -- the letters of escapes are no control characters
    have hescape : 0x20 ≤ e.toNat := by
      unfold escapedChar? at he
      split at he <;> first | decide | cases he
    exact ⟨by decide, hescape, noControls_nil⟩
  · rw [hprint, noControls_cons, noControls_cons]
    exact ⟨by decide, by decide, noControls_hexDigits _ _⟩
  · rw [hprint, noControls_cons]
    exact ⟨by omega, noControls_nil⟩

/-- A printed string has none, since they are escaped. -/
private theorem noControls_printString (s : List Char) : NoControls (printString s) := by
  rw [printString, List.cons_append, noControls_cons, noControls_append, noControls_cons]
  refine ⟨by decide, ?_, by decide, noControls_nil⟩
  intro c hc
  obtain ⟨d, -, hd⟩ := List.mem_flatMap.1 hc
  exact noControls_printChar d c hd

mutual

/-- A value is printed without control characters, however deep its strings are. -/
theorem noControls_print (v : Json) (hv : Readable v) : NoControls (print v) := by
  -- by recursion on the value, along with its items and members
  match v with
  | .null => rw [print]; decide
  | .bool true => rw [print]; decide
  | .bool false => rw [print]; decide
  | .int i => exact Decimal.noControls_ofInt i
  | .float x => cases hv
  | .str s => exact noControls_printString _
  | .arr [] => rw [print]; decide
  | .arr (v :: vs) =>
    obtain ⟨hv, hvs⟩ : Readable v ∧ ItemsReadable vs := hv
    rw [print, List.cons_append, noControls_cons, noControls_append]
    exact ⟨by decide, noControls_print v hv, noControls_printItems vs hvs⟩
  | .obj [] => rw [print]; decide
  | .obj ((k, v) :: ms) =>
    obtain ⟨-, hv, hms⟩ : _ ∧ Readable v ∧ MembersReadable ms := hv
    simp only [print, List.cons_append, noControls_cons, noControls_append]
    exact ⟨by decide, ⟨noControls_printString _, by decide, noControls_print v hv⟩,
      noControls_printMembers ms hms⟩

/-- The items of a list are printed without any, one by one. -/
private theorem noControls_printItems (vs : List Json) (hvs : ItemsReadable vs) :
    NoControls (printItems vs) := by
  match vs with
  | [] => rw [printItems]; decide
  | v :: vs =>
    obtain ⟨hv, hvs⟩ : Readable v ∧ ItemsReadable vs := hvs
    rw [printItems, List.cons_append, noControls_cons, noControls_append]
    exact ⟨by decide, noControls_print v hv, noControls_printItems vs hvs⟩

/-- So are the members of an object. -/
private theorem noControls_printMembers (ms : List (String × Json)) (hms : MembersReadable ms) :
    NoControls (printMembers ms) := by
  match ms with
  | [] => rw [printMembers]; decide
  | (k, v) :: ms =>
    obtain ⟨hv, hms⟩ : Readable v ∧ MembersReadable ms := hms
    simp only [printMembers, List.cons_append, noControls_cons, noControls_append]
    exact ⟨by decide, ⟨noControls_printString _, by decide, noControls_print v hv⟩,
      noControls_printMembers ms hms⟩

end

end Json

end Chronicle
