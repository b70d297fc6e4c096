/-!
# Closed vocabularies

A closed vocabulary is a finite type whose members are written as fixed words: statuses, stages,
message kinds, log levels. `ofWord?` reads a word back: `ofWord?_word`.
-/
namespace Chronicle

/-- A finite type whose members are written as fixed words, no word for two members. -/
class Vocabulary (α : Type) where
  /-- Every member, in the order in which the words are listed to a reader. -/
  all : List α
  /-- The word for a member. -/
  word : α → String
  /-- Searching all members for a member's word finds that member. -/
  find_word : ∀ a, all.find? (fun b => word b == word a) = some a

namespace Vocabulary

variable {α : Type} [Vocabulary α]

/-- The member that a word stands for. -/
def ofWord? (w : String) : Option α :=
  all.find? (fun b => word b == w)

/-- The words of all members, in listing order. -/
def words (α : Type) [Vocabulary α] : List String :=
  (all : List α).map word

@[simp] theorem ofWord?_word (a : α) : ofWord? (word a) = some a :=
  find_word a

end Vocabulary

end Chronicle
