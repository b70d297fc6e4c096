import Chronicle.Number.Decimal

/-!
# Handles

Everything that a report opens is known by a handle. Handles are drawn one after another from a
single supply, so no two draws give the same one; `Handle.drawn_injective` says so.

A `Table` holds what is known by handles, the newest entry first.
-/
namespace Chronicle

/-- The name of something in a report. -/
structure Handle where
  name : String
  deriving DecidableEq, Repr, Inhabited

/-- The handle of the draw after `n` others. -/
def Handle.drawn (n : Nat) : Handle :=
  ⟨String.ofList ('u' :: Decimal.digits (n + 1))⟩

theorem Handle.drawn_injective {m n : Nat} (h : Handle.drawn m = Handle.drawn n) : m = n := by
  have h := congrArg (fun x : Handle => x.name.toList) h
  simp only [Handle.drawn, String.toList_ofList, List.cons.injEq, true_and] at h
  have := Decimal.digits_injective h
  omega

/-- A handle that one of the first `n` draws gives. -/
def Handle.IsBefore (h : Handle) (n : Nat) : Prop :=
  ∃ k < n, h = .drawn k

theorem Handle.IsBefore.mono {h : Handle} {m n : Nat} (hh : h.IsBefore m) (hle : m ≤ n) :
    h.IsBefore n := by
  obtain ⟨k, hk, rfl⟩ := hh
  exact ⟨k, by omega, rfl⟩

/-- The next draw gives a new handle. -/
theorem Handle.not_isBefore_drawn (n : Nat) : ¬(Handle.drawn n).IsBefore n := by
  rintro ⟨k, hk, heq⟩
  have := Handle.drawn_injective heq
  omega

theorem Handle.IsBefore.ne_drawn {h : Handle} {n : Nat} (hh : h.IsBefore n) : h ≠ .drawn n := by
  rintro rfl
  exact Handle.not_isBefore_drawn n hh

/-- Entries by handle, the newest first. -/
abbrev Table (α : Type) := List (Handle × α)

namespace Table

variable {α : Type}

/-- The entry of a handle. -/
def get? (t : Table α) (h : Handle) : Option α :=
  t.lookup h

/-- Whether a handle has an entry. -/
def has (t : Table α) (h : Handle) : Bool :=
  (t.get? h).isSome

/-- The handles with an entry. -/
def handles (t : Table α) : List Handle :=
  t.map (·.1)

/-- Adds an entry for a new handle. -/
def insert (t : Table α) (h : Handle) (a : α) : Table α :=
  (h, a) :: t

/-- Removes the entry of a handle. -/
def remove (t : Table α) (h : Handle) : Table α :=
  t.filter (·.1 != h)

/-- Changes the entry of a handle. -/
def change (t : Table α) (h : Handle) (f : α → α) : Table α :=
  t.map fun e => if e.1 = h then (e.1, f e.2) else e

end Table

end Chronicle
